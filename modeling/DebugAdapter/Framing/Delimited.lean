import DebugAdapter.Interpreter.Message
import DebugAdapter.Text.Blank
/-!
# Delimited frames

Messages to and from the interpreter are JSON texts, each ended by one octet that occurs in none of
them. A frame that holds no message is reported with its text and changes nothing about its
neighbours; a frame of blanks alone is passed over. Between two refills of the buffer at most
`limit` frames are taken, so that one large read does not keep everybody else waiting; the frames
beyond stay in the buffer.
-/

namespace DebugAdapter.Framing

open Interpreter (Message)

/-- What can go wrong with a stream of frames. -/
inductive FrameError where
  | io
  | invalidUtf8
  | parsing (e : DecodeError)
  | delimiterInPayload
deriving DecidableEq, Repr

/-- How an error is reported. -/
def FrameError.message : FrameError → String
  | .io => "reading or writing interpreter stream"
  | .invalidUtf8 => "frame is not valid utf-8"
  | .parsing _ => "parsing message"
  | .delimiterInPayload => "serialised message contains the frame delimiter"

/-- A frame that holds no message. -/
structure MalformedFrame where
  raw : String
  error : FrameError
deriving DecidableEq, Repr

/-- A frame: a message, or what is wrong with it. -/
abbrev Frame := Except MalformedFrame Message

/-- How frames are told apart. -/
structure Delimiting where
  /-- The octet behind each frame. -/
  delimiter : UInt8 := 0x04
  /-- How many frames are taken between two refills. -/
  limit : Nat := 128
deriving DecidableEq, Repr, Inhabited

namespace Delimiting

/-- The number of frames taken between two refills: never none. -/
def bound (d : Delimiting) : Nat := max 1 d.limit

/-- What stands between two delimiters; nothing if these are blanks. -/
def frameOf? (segment : Bytes) : Option Frame :=
  match Utf8.decode? segment with
  | none => some (.error ⟨Utf8.decodeLossy segment, .invalidUtf8⟩)
  | some text =>
    let trimmed := Text.trim text
    if trimmed.isEmpty then none
    else
      match Decode.fromBytes Message.decoder (Utf8.encode trimmed) with
      | .ok m => some (.ok m)
      | .error e => some (.error ⟨trimmed, .parsing e⟩)

/-- The octets of a message with the delimiter behind them; no message that holds a delimiter can be
written. -/
def encode (d : Delimiting) (m : Message) : Except FrameError Bytes :=
  let octets := m.encode.bytes
  if octets.contains d.delimiter then .error .delimiterInPayload else .ok (octets ++ [d.delimiter])

/-- A message put behind the octets that wait to be sent; one that cannot be written leaves them as
they are. -/
def append (d : Delimiting) (waiting : Bytes) (m : Message) : Except FrameError Unit × Bytes :=
  match d.encode m with
  | .ok octets => (.ok (), waiting ++ octets)
  | .error e => (.error e, waiting)

end Delimiting

/-- A buffer of octets, and how many frames have been taken out of it since it was last refilled. -/
structure FrameReader where
  delimiting : Delimiting
  taken : Nat := 0
  buffer : Bytes := []
deriving DecidableEq, Repr, Inhabited

namespace FrameReader

/-- What one attempt to take a frame leaves. -/
structure Attempt where
  frame : Option Frame
  taken : Nat
  buffer : Bytes

/-- The next frame of `bs` behind the octets of `segment`, which are kept in reverse. -/
def take (d : Delimiting) (taken : Nat) (segment : Bytes) : Bytes → Attempt
  | [] => ⟨none, 0, segment.reverse⟩
  | b :: rest =>
    if b = d.delimiter then
      if segment.isEmpty then take d taken [] rest
      else if d.bound ≤ taken then ⟨none, 0, segment.reverse ++ b :: rest⟩
      else
        match Delimiting.frameOf? segment.reverse with
        | none => take d (taken + 1) [] rest
        | some f => ⟨some f, taken + 1, rest⟩
    else take d taken (b :: segment) rest

/-- More octets behind the ones in the buffer. -/
def feed (r : FrameReader) (bs : Bytes) : FrameReader := { r with buffer := r.buffer ++ bs }

/-- The next frame in the buffer, if there is one and the limit allows it. -/
def next (r : FrameReader) : Option Frame × FrameReader :=
  let a := take r.delimiting r.taken [] r.buffer
  (a.frame, { r with taken := a.taken, buffer := a.buffer })

/-- The next frame when no more octets will come: there is no later refill to put frames off to,
and what no delimiter follows is given up. -/
def nextAtEnd (r : FrameReader) : Option Frame × FrameReader :=
  match ({ r with taken := 0 } : FrameReader).next with
  | (some f, r) => (some f, r)
  | (none, r) => (none, { r with buffer := [] })

/-- Frames until there is none; each takes at least one octet, so `fuel` need not exceed the
buffer's length. -/
def drainWith (attempt : FrameReader → Option Frame × FrameReader) :
    Nat → FrameReader → List Frame × FrameReader
  | 0, r => ([], r)
  | fuel + 1, r =>
    match attempt r with
    | (none, r) => ([], r)
    | (some f, r) =>
      let (fs, r) := drainWith attempt fuel r
      (f :: fs, r)

/-- All frames that can be had now. -/
def drain (r : FrameReader) : List Frame × FrameReader := drainWith next (r.buffer.length + 1) r

/-- All frames that can be had when no more octets will come. -/
def drainAtEnd (r : FrameReader) : List Frame × FrameReader :=
  drainWith nextAtEnd (r.buffer.length + 1) r

end FrameReader

end DebugAdapter.Framing
