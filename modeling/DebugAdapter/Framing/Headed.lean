import DebugAdapter.Json.Decode
import DebugAdapter.Text.Blank
/-!
# Headed frames

Messages to and from the editor follow a header that says how long they are. Whatever stands before
the words `Content-Length` is passed over, so that noise between two messages does no harm; the
body is taken by its length alone and may hold anything.
-/

namespace DebugAdapter.Framing

/-- What can go wrong with a stream of headed frames. -/
inductive HeaderError where
  | invalidUtf8
  | invalidInteger
  | missingLength
deriving DecidableEq, Repr

/-- Errors of a whole stream. -/
inductive StreamError where
  | header (e : HeaderError)
  | body (e : DecodeError)
  /-- The stream ended within a frame. -/
  | bytesRemaining
deriving DecidableEq, Repr

/-- How an error is reported. -/
def StreamError.message : StreamError → String
  | .header .invalidUtf8 => "invalid utf8"
  | .header .invalidInteger => "invalid integer"
  | .header .missingLength => "missing content-length header"
  | .body _ => "deserializing message content"
  | .bytesRemaining => "bytes remaining on stream"

namespace Headed

/-- The name of the header that counts. -/
def lengthName : String := "Content-Length"

/-- The octets of that name. -/
def mark : Bytes := Utf8.encode lengthName

/-- The end of a line. -/
def lineEnd : Bytes := [0x0D, 0x0A]

/-- The empty line behind the headers. -/
def headerEnd : Bytes := lineEnd ++ lineEnd

/-- The octets before the first occurrence of `pattern`, and the octets from there on. -/
def splitAt? (pattern : Bytes) : Bytes → Option (Bytes × Bytes)
  | [] => if pattern.isEmpty then some ([], []) else none
  | b :: rest =>
    if pattern.isPrefixOf (b :: rest) then some ([], b :: rest)
    else (splitAt? pattern rest).map fun (before, found) => (b :: before, found)

/-- The lines of a text: always at least one. -/
def lines : List Char → List (List Char)
  | [] => [[]]
  | '\r' :: '\n' :: rest => [] :: lines rest
  | c :: rest =>
    match lines rest with
    | first :: others => (c :: first) :: others
    | [] => [[c]]

/-- The two sides of the first colon. -/
def keyValue? : List Char → Option (List Char × List Char)
  | [] => none
  | ':' :: rest => some ([], rest)
  | c :: rest => (keyValue? rest).map fun (key, value) => (c :: key, value)

/-- The length in a header line, if the line is about it. -/
def lengthOfLine? (line : List Char) : Option (Except HeaderError Nat) :=
  match keyValue? line with
  | some (key, value) =>
    if Text.trimChars key = lengthName.toList then
      some ((Text.readInteger .unsigned64 10 (Text.trimChars value)).map Int.toNat
        |>.mapError fun _ => .invalidInteger)
    else none
  | none => none

/-- The length in the first header line that is about it. -/
def lengthOf (header : Bytes) : Except HeaderError Nat :=
  match Utf8.decode? header with
  | none => .error .invalidUtf8
  | some text => ((lines text.toList).findSome? lengthOfLine?).getD (.error .missingLength)

/-- What the octets received so far hold. -/
inductive Attempt where
  /-- No complete frame; the noise before the header may be gone. -/
  | incomplete (buffer : Bytes)
  /-- A header without a usable length, which stays where it is. -/
  | broken (error : HeaderError) (buffer : Bytes)
  /-- A frame's body, and the octets behind it. -/
  | body (octets : Bytes) (buffer : Bytes)
deriving DecidableEq, Repr

/-- The first frame. -/
def take (buffer : Bytes) : Attempt :=
  match splitAt? mark buffer with
  | none => .incomplete buffer
  | some (_, headed) =>
    match splitAt? headerEnd headed with
    | none => .incomplete headed
    | some (header, found) =>
      match lengthOf header with
      | .error e => .broken e headed
      | .ok n =>
        let octets := found.drop headerEnd.length
        if octets.length < n then .incomplete headed else .body (octets.take n) (octets.drop n)

/-- A frame around a body. -/
def frame (body : Bytes) : Bytes :=
  Utf8.encode (lengthName ++ ": " ++ toString body.length) ++ headerEnd ++ body

/-- The frame of a value. -/
def encode (v : Json) : Bytes := frame v.bytes

/-- A complete frame whose body is not what was expected. -/
structure Malformed where
  raw : String
  error : DecodeError
deriving DecidableEq, Repr

/-- What can be taken from a buffer, and what stays in it. -/
structure Taken (α : Type) where
  item : Except StreamError (Option α)
  buffer : Bytes

/-- The next item of a stream that has to be well-formed. -/
def nextStrict {α : Type} (decoder : Decoder α) (buffer : Bytes) : Taken α :=
  match take buffer with
  | .incomplete buffer => ⟨.ok none, buffer⟩
  | .broken e buffer => ⟨.error (.header e), buffer⟩
  | .body octets buffer =>
    ⟨((Decode.fromBytes decoder octets).map some).mapError .body, buffer⟩

/-- The next item of a stream that may hold malformed bodies between others. -/
def nextLenient {α : Type} (decoder : Decoder α) (buffer : Bytes) : Taken (Except Malformed α) :=
  match take buffer with
  | .incomplete buffer => ⟨.ok none, buffer⟩
  | .broken e buffer => ⟨.error (.header e), buffer⟩
  | .body octets buffer =>
    ⟨.ok (some ((Decode.fromBytes decoder octets).mapError fun e =>
      ⟨Utf8.decodeLossy octets, e⟩)), buffer⟩

/-- The same at the end of the stream, where a part of a frame is an error. -/
def atEnd {α : Type} (t : Taken α) : Taken α :=
  match t.item with
  | .ok none => if t.buffer.isEmpty then t else { t with item := .error .bytesRemaining }
  | _ => t

end Headed

end DebugAdapter.Framing
