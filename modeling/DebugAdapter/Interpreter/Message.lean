import DebugAdapter.Json.Decode
/-!
# Messages

What travels between the adapter and the interpreter. Each side numbers its own messages; `reply`
names the message of the other side that this one answers.
-/

namespace DebugAdapter.Interpreter

/-- A message. -/
structure Message where
  type : String
  id : String
  reply : Option String
  data : Json
deriving Repr, Inhabited

namespace Message

/-- The type of the interpreter's keep-alive request. -/
def pingRequest : String := "base/ping/req"

/-- The type of the answer to it. -/
def pingResponse : String := "base/ping/res"

/-- Whether the message has to be answered at once. -/
def isPing (m : Message) : Bool := m.type == pingRequest

def decoder : Decoder Message :=
  Decode.record "Message" <|
    ((Decode.Fields.pure Message.mk).required "type" Decode.string
      |>.required "id" Decode.string
      |>.defaulted "reply" none (Decode.optional Decode.string)
      |>.defaulted "data" .null Decode.json)

def encode (m : Message) : Json :=
  .object [("type", .string m.type), ("id", .string m.id),
    ("reply", Json.orNull (m.reply.map .string)), ("data", m.data)]

/-- The payload as a value of some type. -/
def payload {α : Type} (decoder : Decoder α) (m : Message) : Except DecodeError α :=
  Decode.fromJson decoder m.data

end Message

end DebugAdapter.Interpreter
