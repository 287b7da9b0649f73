import DebugAdapter.Framing.Delimited
import DebugAdapter.Report.Basic
/-!
# Reports of frames

The frames that were read from an interpreter or an editor.
-/

namespace DebugAdapter.Report

/-- What is left of a buffer, beside what was taken from it. -/
def buffered (n : Nat) (more : List (String × Json)) : Json :=
  .object (more ++ [("buffered", .nat n)])

/-- The kind of an error in a frame of the interpreter. -/
def frameErrorKind : Framing.FrameError → String
  | .io => "io"
  | .invalidUtf8 => "invalid_utf8"
  | .parsing _ => "parsing"
  | .delimiterInPayload => "delimiter_in_payload"

/-- A frame of the interpreter. -/
def frame : Framing.Frame → Json
  | .ok m => .object [("message", m.encode), ("ping", .bool m.isPing)]
  | .error bad =>
    .object ([("error", .string (frameErrorKind bad.error)),
        ("message", .string bad.error.message), ("raw", .string bad.raw)]
      ++ match bad.error with
        | .parsing e => [("class", .string (errorClass e.errorClass))]
        | _ => [])

/-- The kind of an error in the stream of the editor. -/
def streamErrorKind : Framing.StreamError → String
  | .header .invalidUtf8 => "invalid_utf8"
  | .header .invalidInteger => "invalid_integer"
  | .header .missingLength => "missing_content_length_header"
  | .body _ => "deserializing"
  | .bytesRemaining => "io"

/-- An error in the stream of the editor. -/
def streamError (e : Framing.StreamError) : Json :=
  .object ([("error", .string (streamErrorKind e)), ("message", .string e.message)]
    ++ match e with
      | .body e => [("class", .string (errorClass e.errorClass))]
      | _ => [])

/-- What was taken from the stream of the editor. -/
def taken {α : Type} (show_ : α → Json) (t : Framing.Headed.Taken α) : Json :=
  buffered t.buffer.length [("frame",
    match t.item with
    | .ok none => .null
    | .ok (some a) => show_ a
    | .error e => streamError e)]

/-- An item. -/
def item {α : Type} (encode : α → Json) (a : α) : Json := .object [("item", encode a)]

/-- An item, or a body that is none. -/
def itemOrMalformed {α : Type} (encode : α → Json) : Except Framing.Headed.Malformed α → Json
  | .ok a => item encode a
  | .error bad =>
    .object [("malformed", .string bad.raw), ("class", .string (errorClass bad.error.errorClass))]

end DebugAdapter.Report
