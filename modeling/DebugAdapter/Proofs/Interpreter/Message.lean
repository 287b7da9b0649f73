import DebugAdapter.Interpreter.Message
import DebugAdapter.Proofs.Json.Record
import DebugAdapter.Proofs.Json.RoundTrip
/-! # Reading back messages

A message is read back from its text if its payload is: with keys in order, integers of 64 bits for
numbers, and no more containers open at once than may be, the message itself being one.
-/

namespace DebugAdapter.Interpreter.Message

open Document
open Decode.Fields (Gives)

/-- A payload that the text of a message keeps. -/
structure Faithful (m : Message) : Prop where
  ordered : m.data.Ordered
  integral : m.data.Integral
  nested : m.encode.depth ≤ maxDepth

theorem integral_encode {m : Message} (h : m.data.Integral) : m.encode.Integral := by
  cases m with
  | mk type id reply data =>
      cases reply <;> exact ⟨trivial, trivial, trivial, h, trivial⟩

theorem decoder_encode {m : Message} (ordered : m.data.Ordered) (o : Origin) :
    decoder o (ofJson m.encode) = .ok m := by
  have payload : Decode.json o (ofJson m.data) = .ok m.data := by
    simp only [Decode.json, toJson_ofJson ordered]
  have reply : Decode.optional Decode.string o (ofJson (Json.orNull (m.reply.map .string))) =
      .ok m.reply :=
    Decode.optional_orNull (fun _ => Json.noConfusion) (fun _ _ => rfl)
  apply Decode.record_ofMembers ["type", "id", "reply", "data"] rfl (by decide)
  exact ((((Gives.pure Message.mk).field rfl (Decode.string_ofJson m.type o)).field rfl
    (Decode.string_ofJson m.id o)).field rfl reply).field rfl payload

/-- A message is read back from its text. -/
theorem fromBytes_encode {m : Message} (h : m.Faithful) :
    Decode.fromBytes decoder m.encode.bytes = .ok m :=
  Decode.fromBytes_bytes (integral_encode h.integral) h.nested (decoder_encode h.ordered .text)

end DebugAdapter.Interpreter.Message
