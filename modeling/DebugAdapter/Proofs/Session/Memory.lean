import DebugAdapter.Proofs.Json.Record
import DebugAdapter.Proofs.Program.Memory
import DebugAdapter.Proofs.Session.References
import DebugAdapter.Proofs.Text.Base64
/-!
# Reading memory

A request to read the octets of a text is answered with those that are asked for, as far as the text
has them, and with the number of those that are missing. Nothing that can be asked for leads out of
the text, and what is read in two parts is the same as what is read at once.
-/

namespace DebugAdapter

open Protocol

/-! ## Numbers of machine size -/

namespace Protocol

/-- The numbers in a request to read memory have 64 bits. -/
theorem ReadMemory.holds_of_read {o : Origin} {d : Document} {args : ReadMemory}
    (read : decoder o d = .ok args) :
    Text.IntegerRange.signed64.holds (args.offset.getD 0) = true ∧
      Text.IntegerRange.signed64.holds args.count = true := by
  obtain ⟨slots, all⟩ := Decode.record_inv read
  obtain ⟨_, count, two, rfl, _, third⟩ := Decode.build_required_inv all
  obtain ⟨_, offset, one, rfl, second⟩ := Decode.build_field_inv two
  obtain ⟨_, reference, none_, rfl, -⟩ := Decode.build_required_inv one
  cases none_
  constructor
  · cases offset with
    | none => rfl
    | some n =>
        rcases second with ⟨d, read⟩ | absent
        · exact Decode.holds_of_int64 (Decode.read_of_optional read)
        · cases absent
  · exact Decode.holds_of_int64 third

theorem Request.readMemory_of_parse {r : Request} {args : ReadMemory}
    (parsed : r.parse = .ok (.readMemory args)) :
    r.argumentsAs ReadMemory.decoder = .ok args := by
  unfold parse at parsed
  split at parsed
  all_goals first
    | cases parsed
    | (obtain ⟨_, read, same⟩ := Decode.map_ok parsed
       cases same <;> exact read)

theorem Request.holds_of_readMemory {r : Request} {args : ReadMemory}
    (parsed : r.parse = .ok (.readMemory args)) :
    Text.IntegerRange.signed64.holds (args.offset.getD 0) = true ∧
      Text.IntegerRange.signed64.holds args.count = true := by
  have read := readMemory_of_parse parsed
  unfold argumentsAs at read
  split at read
  · exact ReadMemory.holds_of_read read
  · exact ReadMemory.holds_of_read read

end Protocol

namespace Session

/-- The part of some octets from one place to another, if there are such places in this order. -/
def slice? (octets : Bytes) (start stop : Nat) : Option Bytes :=
  if start ≤ stop ∧ stop ≤ octets.length then some (octets.extract start stop) else none

/-- A difference that is not negative. -/
def difference? (a b : Nat) : Option Nat := if b ≤ a then some (a - b) else none

/-- The largest number of 64 bits. -/
def largestWord : Nat := 18446744073709551615

/-- Reading octets with numbers of 64 bits: a sum that is too large becomes the largest number, both
ends are moved back into the octets, and there is no result if the part cannot be cut out or if it is
longer than what was asked for. -/
def readWords? (octets : Bytes) (offset count : Nat) : Option (Bytes × Nat) := do
  let start := min offset octets.length
  let stop := min (min (offset + count) largestWord) octets.length
  let part ← slice? octets start stop
  let missing ← difference? count part.length
  return (part, missing)

/-- The octets behind some place, as many as there are. -/
theorem take_drop_eq_extract (octets : Bytes) (offset count : Nat) :
    (octets.drop offset).take count =
      octets.extract (min offset octets.length) (min (offset + count) octets.length) := by
  rw [List.extract_eq_take_drop]
  by_cases inside : offset ≤ octets.length
  · rw [Nat.min_eq_left inside, List.take_eq_take_iff, List.length_drop]
    omega
  · have beyond : octets.drop offset = [] := List.drop_of_length_le (by omega)
    simp [beyond]
    omega

theorem readWords?_eq {offset count : Nat} (small : offset + count ≤ largestWord) (octets : Bytes) :
    readWords? octets offset count = some ((octets.drop offset).take count,
      count - ((octets.drop offset).take count).length) := by
  have ordered : min offset octets.length ≤ min (offset + count) octets.length := by omega
  have inside : min (offset + count) octets.length ≤ octets.length := Nat.min_le_right _ _
  have short : ((octets.drop offset).take count).length ≤ count := List.length_take_le _ _
  simp only [readWords?, Nat.min_eq_left small, slice?, if_pos (And.intro ordered inside),
    ← take_drop_eq_extract, difference?, if_pos short, Option.bind_eq_bind, Option.bind_some]
  rfl

/-! ## Variables -/

/-- Whether a variable is made from a name and a value, with other values and looks at its octets
since. -/
inductive Made : Program.Variable → Prop where
  | new (name : String) (value : Program.Value) : Made { name, value }
  | setValue {x : Program.Variable} (made : Made x) (value : Program.Value) : Made (x.setValue value)
  | looked {x : Program.Variable} (made : Made x) : Made x.memory.2

theorem Made.coherent {x : Program.Variable} (made : Made x) : x.Coherent := by
  induction made with
  | new => exact .of_none rfl
  | setValue _ value ih => exact ih.use (.assign value)
  | looked _ ih => exact ih.use .look

/-- The octets of a variable are those of its text. -/
theorem Made.memory {x : Program.Variable} (made : Made x) : x.memory.1 =
    match x.value with
    | .string text => some (Utf8.encode text)
    | _ => none := made.coherent.memory

/-- Whether every variable in a table is made so. -/
def Kept (handles : Handles Container) : Prop := ∀ x, .variable_ x ∈ handles.items → Made x

theorem Stands.made {c : Container} {x : Program.Variable} (stands : Stands c (.variable_ x)) :
    Made x := by
  have new {x : Program.Variable} (fresh : x.octets = none) : Made x := by
    obtain ⟨name, value, octets⟩ := x
    cases fresh
    exact .new name value
  cases stands with
  | scope scope => exact absurd rfl (scope x)
  | fresh fresh => exact new fresh
  | laidOut fresh => exact (new fresh).looked

theorem Tracks.kept {issued : List Issue} {handles : Handles Container}
    (tracks : Tracks issued handles) : Kept handles := by
  obtain ⟨subjects, -, stands⟩ := tracks
  unfold Kept
  generalize handles.items = items at stands
  intro x member
  induction stands with
  | nil => cases member
  | cons first _ ih =>
      rcases List.mem_cons.mp member with rfl | later
      · exact first.made
      · exact ih later

/-- Whether a reference is the number of a variable with some text. -/
def Denotes (handles : Handles Container) (reference text : String) : Prop :=
  ∃ n x, Text.readInt64 reference = .ok n ∧ handles.get? n = some (.variable_ x) ∧
    x.value = .string text

theorem Handles.get?_set {α : Type} {handles : Handles α} {n : Int} {a : α}
    (found : handles.get? n = some a) (a' : α) (k : Int) :
    (handles.set n a').get? k = if k = n then some a' else handles.get? k := by
  obtain ⟨i, place, there⟩ := Option.bind_eq_some_iff.mp found
  obtain ⟨inside, -⟩ := List.getElem?_eq_some_iff.mp there
  simp only [Handles.set, place, get?]
  by_cases same : k = n
  · rw [same, place, if_pos rfl]
    exact List.getElem?_set_self inside
  · rw [if_neg same]
    cases place' : place? k with
    | none => rfl
    | some j =>
        have other : i ≠ j := by
          unfold place? at place place'
          grind
        exact List.getElem?_set_ne other

section

variable {handles : Handles Container} {reference : String}

/-- Looking at octets leaves every reference as it is. -/
theorem denotes_octetsOf (other text : String) :
    Denotes (Handler.octetsOf handles reference).2 other text ↔ Denotes handles other text := by
  unfold Handler.octetsOf
  split
  · rfl
  · rename_i n read
    split
    · rename_i x found
      have value : x.memory.2.value = x.value := x.layOut_value
      constructor
      · rintro ⟨k, y, readOther, there, text⟩
        rw [Handles.get?_set found] at there
        split at there
        · rename_i same
          cases there
          exact ⟨k, x, readOther, same ▸ found, value ▸ text⟩
        · exact ⟨k, y, readOther, there, text⟩
      · rintro ⟨k, y, readOther, there, text⟩
        by_cases same : k = n
        · cases (same ▸ there).symm.trans found
          exact ⟨k, x.memory.2, readOther, (Handles.get?_set found _ _).trans (if_pos same),
            value.trans text⟩
        · exact ⟨k, y, readOther, ((Handles.get?_set found _ _).trans (if_neg same)).trans there,
            text⟩
    · rfl

variable (kept : Kept handles)

include kept

theorem Kept.octetsOf : Kept (Handler.octetsOf handles reference).2 := by
  unfold Handler.octetsOf
  split
  · exact kept
  · rename_i n _
    split
    · rename_i x found
      obtain ⟨i, place, there⟩ := Option.bind_eq_some_iff.mp found
      simp only [Handles.set, place]
      intro y member
      rcases List.mem_or_eq_of_mem_set member with old | new
      · exact kept y old
      · cases new
        exact (kept x (List.mem_of_getElem? there)).looked
    · exact kept

theorem Kept.octetsOf_text {text : String} (denotes : Denotes handles reference text) :
    (Handler.octetsOf handles reference).1 = some (Utf8.encode text) := by
  obtain ⟨n, x, read, found, value⟩ := denotes
  obtain ⟨i, -, there⟩ := Option.bind_eq_some_iff.mp found
  have octets := (kept x (List.mem_of_getElem? there)).memory
  rw [value] at octets
  simp only [Handler.octetsOf, read, found]
  exact octets

theorem Kept.octetsOf_nothing (nothing : ∀ text, ¬ Denotes handles reference text) :
    (Handler.octetsOf handles reference).1 = none := by
  cases read : Text.readInt64 reference with
  | error e => simp only [Handler.octetsOf, read]
  | ok n =>
      cases found : handles.get? n with
      | none => simp only [Handler.octetsOf, read, found]
      | some c =>
          cases c with
          | variable_ x =>
              obtain ⟨i, -, there⟩ := Option.bind_eq_some_iff.mp found
              have octets := (kept x (List.mem_of_getElem? there)).memory
              simp only [Handler.octetsOf, read, found]
              rw [octets]
              split
              · rename_i text value
                exact absurd ⟨n, x, read, found, value⟩ (nothing text)
              · rfl
          | locals | parameters | globals => simp only [Handler.octetsOf, read, found]

end

/-! ## Requests -/

/-- A request to read memory that a session handles. -/
structure MemoryRead where
  session : Session
  now : Millis
  request : Request
  args : ReadMemory
  handled : session.handled? (.activity now .read) = some request
  parsed : request.parse = .ok (.readMemory args)
  kept : Kept session.handler.handles

namespace MemoryRead

variable (m : MemoryRead)

/-- The place at which it begins to read. A negative number counts as 0. -/
def offset : Nat := (m.args.offset.getD 0).toNat

/-- How many octets it asks for. A negative number counts as 0. -/
def count : Nat := m.args.count.toNat

/-- Whether its reference denotes a text. -/
def Reads (text : String) : Prop :=
  Denotes m.session.handler.handles m.args.memoryReference text

/-- Whether it is answered with some octets and a number of missing ones, and with nothing else. -/
def Answers (part : Bytes) (missing : Int) : Prop :=
  ∃ data, m.session.produced (.activity m.now .read) =
      [.response (.ok m.request (.memory (toString m.offset) data missing))] ∧
    Text.base64Decoded? data = some part

/-- What a request to read memory does. -/
structure Exact : Prop where
  /-- It is answered. -/
  answered : ∃ part missing, m.Answers part missing
  /-- A text is read as far as it goes. -/
  text : ∀ text, m.Reads text → ∀ part missing, m.Answers part missing →
    part = (Utf8.encode text).extract (min m.offset (Utf8.encode text).length)
      (min (m.offset + m.count) (Utf8.encode text).length)
  /-- Where there is no text nothing is read. -/
  nothing : (∀ text, ¬ m.Reads text) → ∀ part missing, m.Answers part missing → part = []
  /-- What is not read is missing. -/
  missing : ∀ part missing, m.Answers part missing →
    missing = m.count - part.length ∧ 0 ≤ missing ∧ Text.IntegerRange.signed64.holds missing = true
  /-- Numbers of 64 bits suffice to find out. -/
  words : ∀ octets : Bytes, readWords? octets m.offset m.count =
    some ((octets.drop m.offset).take m.count,
      m.count - ((octets.drop m.offset).take m.count).length)
  /-- Two requests, the second of which begins where the first one ends, read what one reads. -/
  divided : ∀ first second : MemoryRead, (∀ text, first.Reads text ↔ m.Reads text) →
    (∀ text, second.Reads text ↔ m.Reads text) → first.offset = m.offset →
    second.offset = first.offset + first.count → m.count = first.count + second.count →
    ∀ part missing part₁ missing₁ part₂ missing₂, m.Answers part missing →
      first.Answers part₁ missing₁ → second.Answers part₂ missing₂ →
        part = part₁ ++ part₂ ∧ missing = missing₁ + missing₂
  /-- All references denote what they did. -/
  kept : Kept (m.session.happen (.activity m.now .read)).handler.handles ∧ ∀ reference text,
    Denotes (m.session.happen (.activity m.now .read)).handler.handles reference text ↔
      Denotes m.session.handler.handles reference text

/-- The octets under its reference. -/
def octets : Bytes := (Handler.octetsOf m.session.handler.handles m.args.memoryReference).1.getD []

variable {m}

theorem octets_text {text : String} (reads : m.Reads text) : m.octets = Utf8.encode text := by
  rw [octets, m.kept.octetsOf_text reads]
  rfl

theorem octets_nothing (nothing : ∀ text, ¬ m.Reads text) : m.octets = [] := by
  rw [octets, m.kept.octetsOf_nothing nothing]
  rfl

/-- The octets are those of whatever the reference denotes. -/
theorem octets_congr {m' : MemoryRead} (same : ∀ text, m'.Reads text ↔ m.Reads text) :
    m'.octets = m.octets := by
  by_cases something : ∃ text, m.Reads text
  · obtain ⟨text, reads⟩ := something
    rw [octets_text reads, octets_text ((same text).mpr reads)]
  · have nothing (text : String) : ¬ m.Reads text := fun reads => something ⟨text, reads⟩
    rw [octets_nothing nothing, octets_nothing fun text reads => nothing text ((same text).mp reads)]

theorem answers_excerpt (m : MemoryRead) : m.Answers ((m.octets.drop m.offset).take m.count)
    (m.count - ((m.octets.drop m.offset).take m.count).length : Nat) := by
  have produced := produced_carryOut m.handled m.parsed
    (m.session.handler.produces_memory m.request m.args)
  exact ⟨_, produced, Text.base64Decoded?_base64 _⟩

/-- There is only one answer. -/
theorem Answers.eq {part : Bytes} {missing : Int} (answers : m.Answers part missing) :
    part = (m.octets.drop m.offset).take m.count ∧ missing = (m.count - part.length : Nat) := by
  obtain ⟨data, produced, decoded⟩ := answers
  obtain ⟨data', produced', decoded'⟩ := m.answers_excerpt
  cases produced.symm.trans produced'
  cases decoded.symm.trans decoded'
  exact ⟨rfl, rfl⟩

theorem handles_after (m : MemoryRead) :
    (m.session.happen (.activity m.now .read)).handler.handles =
      (Handler.octetsOf m.session.handler.handles m.args.memoryReference).2 := by
  rw [handles_read m.handled, Handler.handle, m.parsed]
  exact Handler.send_handles _ _

/-- What is asked for ends before the largest number. -/
theorem end_small (m : MemoryRead) : m.count ≤ 9223372036854775807 ∧
    m.offset + m.count ≤ largestWord := by
  obtain ⟨offset, count⟩ := Request.holds_of_readMemory m.parsed
  simp only [Text.IntegerRange.holds, Bool.and_eq_true, decide_eq_true_eq] at offset count
  simp only [Text.IntegerRange.signed64] at offset count
  simp only [MemoryRead.offset, MemoryRead.count, largestWord]
  omega

theorem exact (m : MemoryRead) : m.Exact where
  answered := ⟨_, _, m.answers_excerpt⟩
  text text reads part missing answers := by
    rw [answers.eq.1, take_drop_eq_extract, octets_text reads]
  nothing nothing part missing answers := by
    rw [answers.eq.1, octets_nothing nothing]
    simp
  missing part missing answers := by
    obtain ⟨cut, rest⟩ := answers.eq
    have short : part.length ≤ m.count := cut ▸ List.length_take_le _ _
    have small := m.end_small.1
    simp only [rest, Text.IntegerRange.holds, Text.IntegerRange.signed64, Bool.and_eq_true,
      decide_eq_true_eq]
    omega
  words := readWords?_eq m.end_small.2
  divided first second same same' start next whole part missing part₁ missing₁ part₂ missing₂
      answers answers₁ answers₂ := by
    obtain ⟨cut, rest⟩ := answers.eq
    obtain ⟨cut₁, rest₁⟩ := answers₁.eq
    obtain ⟨cut₂, rest₂⟩ := answers₂.eq
    have joined : part = part₁ ++ part₂ := by
      rw [cut, cut₁, cut₂, octets_congr same, octets_congr same', next, start, whole, List.take_add,
        List.drop_drop]
    have short₁ : part₁.length ≤ first.count := cut₁ ▸ List.length_take_le _ _
    have short₂ : part₂.length ≤ second.count := cut₂ ▸ List.length_take_le _ _
    have lengths : part.length = part₁.length + part₂.length := by rw [joined, List.length_append]
    exact ⟨joined, by omega⟩
  kept := by
    rw [m.handles_after]
    exact ⟨m.kept.octetsOf, denotes_octetsOf⟩

end MemoryRead

/-- Reading memory is exact, and in every run there is nothing in the table that it could stumble
over. -/
theorem run_reads_memory (config : Monitor.Config) (home : String)
    (refusal : Option Monitor.Refusal) (patience : Millis) (happenings : List Happening) :
    (∀ m : MemoryRead, m.Exact) ∧
      Kept (Trace.run step (opening config home refusal patience) happenings).state.handler.handles :=
  ⟨MemoryRead.exact, (tracks_run config home refusal patience happenings).kept⟩

/-- A session in which a text has been shown under the first number. The editor asks for nine octets
from the fourth one on. -/
def peeked : Session :=
  { opening {} "/" none 1000 with
    handler := { control := (opening {} "/" none 1000).control
                 handles := { items := [.variable_ { name := "s", value := .string "héllo" }] } }
    incoming := { octets := Framing.Headed.encode (.object [("seq", .int 1),
      ("command", .string "readMemory"), ("arguments", .object
        [("memoryReference", .string "1000"), ("offset", .int 3), ("count", .int 9)])]) } }

def peeking : MemoryRead where
  session := peeked
  now := 0
  request := (peeked.handled? (.activity 0 .read)).get (by decide +kernel)
  args := { memoryReference := "1000", offset := some 3, count := 9 }
  handled := (Option.some_get _).symm
  parsed := by decide +kernel
  kept := by
    intro x member
    cases List.mem_singleton.mp member
    exact .new _ _

theorem run_reads_memory_peeking : peeking.Reads "héllo" ∧ peeking.offset = 3 ∧
    peeking.count = 9 ∧ peeking.Answers [108, 108, 111] 6 := by
  have reads : peeking.Reads "héllo" := ⟨1000, _, by decide +kernel, rfl, rfl⟩
  have exact_ := (run_reads_memory {} "/" none 1000 []).1 peeking
  obtain ⟨part, missing, answers⟩ := exact_.answered
  have cut := exact_.text _ reads part missing answers
  have rest := (exact_.missing part missing answers).1
  have three : part = [108, 108, 111] := cut.trans (by decide +kernel)
  have six : missing = 6 := by
    rw [rest, three]
    rfl
  exact ⟨reads, rfl, rfl, three ▸ six ▸ answers⟩

end Session

end DebugAdapter
