import DebugAdapter.Proofs.Json.Printed
/-!
# The delimiter

A message that was put behind others ends with the delimiter, which stands nowhere else in it. A
delimiter that is a control character never keeps a message from being written; any other one does
exactly when it stands in the message's text, and then nothing is written.
-/

namespace DebugAdapter.Framing.Delimiting

open Interpreter (Message)

variable (d : Delimiting)

/-- Octets that hold the delimiter once, at their end. -/
def EndsOnce (octets : Bytes) : Prop :=
  octets.count d.delimiter = 1 ∧ octets.getLast? = some d.delimiter

theorem endsOnce_concat {octets : Bytes} (free : d.delimiter ∉ octets) :
    d.EndsOnce (octets ++ [d.delimiter]) := by
  refine ⟨?_, List.getLast?_concat⟩
  rw [List.count_append, List.count_eq_zero.mpr free, List.count_singleton_self]

theorem append_free {m : Message} (free : d.delimiter ∉ m.encode.bytes) (waiting : Bytes) :
    d.append waiting m = (.ok (), waiting ++ (m.encode.bytes ++ [d.delimiter])) := by
  simp [append, encode, free]

theorem append_refused {m : Message} (member : d.delimiter ∈ m.encode.bytes) (waiting : Bytes) :
    d.append waiting m = (.error .delimiterInPayload, waiting) := by
  simp [append, encode, member]

/-- A control character delimits every message, whatever its texts and its payload are. Another
delimiter delimits a message as well, or stands in its text; then the message is refused and the
octets that wait are left as they are. -/
theorem append_delimits (waiting : Bytes) (m : Message) :
    let octets := m.encode.bytes ++ [d.delimiter]
    (d.delimiter < 0x20 → d.append waiting m = (.ok (), waiting ++ octets) ∧ d.EndsOnce octets) ∧
      (d.append waiting m = (.ok (), waiting ++ octets) ∧ d.EndsOnce octets ∨
        d.append waiting m = (.error .delimiterInPayload, waiting) ∧
          d.delimiter ∈ m.encode.bytes) := by
  intro octets
  have delimits (free : d.delimiter ∉ m.encode.bytes) :
      d.append waiting m = (.ok (), waiting ++ octets) ∧ d.EndsOnce octets :=
    ⟨d.append_free free waiting, d.endsOnce_concat free⟩
  constructor
  · intro control
    exact delimits (notMem_bytes_of_control control m.encode)
  · by_cases member : d.delimiter ∈ m.encode.bytes
    · exact .inr ⟨d.append_refused member waiting, member⟩
    · exact .inl (delimits member)

/-- A text that holds both usual delimiters is delimited by a line break. -/
theorem append_delimits_break :
    let d : Delimiting := { delimiter := 0x0A }
    let m : Message :=
      ⟨"eval\n", "\x04", some "\n", .object [("\n\x04", .array [.string "\x04\n"])]⟩
    d.append [0x7B] m = (.ok (), 0x7B :: (m.encode.bytes ++ [0x0A])) ∧
      d.EndsOnce (m.encode.bytes ++ [0x0A]) :=
  (append_delimits { delimiter := 0x0A } [0x7B]
    ⟨"eval\n", "\x04", some "\n", .object [("\n\x04", .array [.string "\x04\n"])]⟩).1 (by decide)

end DebugAdapter.Framing.Delimiting
