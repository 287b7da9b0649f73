import DebugAdapter.Proofs.Json.Record
import DebugAdapter.Proofs.Json.RoundTrip
import DebugAdapter.Protocol.Request
/-! # Reading back requests

A request is read back from its text, whatever its arguments are: those that are `null` are left out
there, and arguments that are left out are `null`.
-/

namespace DebugAdapter.Protocol.Request

open Document
open Decode.Fields (Gives)

/-- A request that its text keeps. -/
structure Faithful (r : Request) : Prop where
  seq : Text.IntegerRange.signed64.holds r.seq = true
  ordered : r.arguments.Ordered
  integral : r.arguments.Integral
  nested : r.encode.depth ≤ maxDepth

/-- The members that a request always has. -/
def head (r : Request) : List (String × Json) :=
  [("seq", .int r.seq), ("type", .string r.type), ("command", .string r.command)]

theorem encode_cases (r : Request) :
    (r.arguments = .null ∧ r.encode = .object r.head) ∨
      (r.arguments ≠ .null ∧ r.encode = .object (r.head ++ [("arguments", r.arguments)])) := by
  obtain ⟨seq, type, command, arguments⟩ := r
  cases arguments with
  | null => exact .inl ⟨rfl, rfl⟩
  | bool | number | string | array | object => exact .inr ⟨Json.noConfusion, rfl⟩

/-- The arguments are left out just when they are `null`. -/
theorem member?_arguments_encode (r : Request) :
    (r.arguments = .null → r.encode.member? "arguments" = none) ∧
      (r.arguments ≠ .null → r.encode.member? "arguments" = some r.arguments) := by
  obtain ⟨omitted, shape⟩ | ⟨present, shape⟩ := r.encode_cases
  · rw [shape]
    exact ⟨fun _ => rfl, fun present => absurd omitted present⟩
  · rw [shape]
    exact ⟨fun omitted => absurd omitted present, fun _ => rfl⟩

theorem decoder_encode {r : Request} (seq : Text.IntegerRange.signed64.holds r.seq = true)
    (ordered : r.arguments.Ordered) (o : Origin) : decoder o (ofJson r.encode) = .ok r := by
  have number := Decode.int64_ofJson seq o
  have type := Decode.string_ofJson r.type o
  have command := Decode.string_ofJson r.command o
  obtain ⟨omitted, shape⟩ | ⟨-, shape⟩ := r.encode_cases
  · rw [shape]
    apply Decode.record_ofMembers ["seq", "type", "command"] rfl (by decide)
    have whole : r = ⟨r.seq, r.type, r.command, .null⟩ := by rw [← omitted]
    rw [whole]
    exact ((((Gives.pure Request.mk).field rfl number).field rfl type).field rfl
      command).field_absent rfl Decode.Presence.noConfusion
  · rw [shape]
    apply Decode.record_ofMembers ["seq", "type", "command", "arguments"] rfl (by decide)
    have arguments : Decode.json o (ofJson r.arguments) = .ok r.arguments := by
      simp only [Decode.json, toJson_ofJson ordered]
    exact ((((Gives.pure Request.mk).field rfl number).field rfl type).field rfl command).field rfl
      arguments

theorem integral_encode {r : Request} (faithful : r.Faithful) : r.encode.Integral := by
  have seq : (Json.int r.seq).Integral := by
    have range := faithful.seq
    rw [Text.IntegerRange.holds, Bool.and_eq_true, decide_eq_true_eq, decide_eq_true_eq] at range
    have low : -9223372036854775808 ≤ r.seq := range.1
    have high : r.seq ≤ 9223372036854775807 := range.2
    exact ⟨low, by omega⟩
  obtain ⟨-, shape⟩ | ⟨-, shape⟩ := r.encode_cases
  · rw [shape]
    exact ⟨seq, trivial, trivial, trivial⟩
  · rw [shape]
    exact ⟨seq, trivial, trivial, faithful.integral, trivial⟩

/-- A request is read back from its text. -/
theorem fromBytes_encode {r : Request} (faithful : r.Faithful) :
    Decode.fromBytes decoder r.encode.bytes = .ok r :=
  Decode.fromBytes_bytes (integral_encode faithful) faithful.nested
    (decoder_encode faithful.seq faithful.ordered .text)

end DebugAdapter.Protocol.Request
