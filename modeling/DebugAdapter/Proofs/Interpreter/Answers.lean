import DebugAdapter.Interpreter.Code
import DebugAdapter.Interpreter.State
import DebugAdapter.Proofs.Interpreter.Message
/-!
# Reading back what an interpreter answers

Every value that an interpreter reports is read back from its answer: integers if they fit into 64
bits, stack items if they could have come over the wire.
-/

namespace DebugAdapter

open Document

namespace Interpreter

open Decode.Fields (Gives)

/-! ## Stack items -/

theorem afterStart?_append {start s rest : String} (h : Text.afterStart? start s = some rest) :
    start ++ rest = s := by
  unfold Text.afterStart? at h
  split at h
  · rename_i front
    cases h
    rw [List.isPrefixOf_iff_prefix] at front
    apply String.toList_injective
    rw [String.toList_append, String.toList_ofList]
    obtain ⟨rest, cut⟩ := front
    rw [← cut, List.drop_left]
  · cases h

theorem DataType.name_ofName (s : String) : (ofName s).name = s := by
  unfold ofName
  cases found : named.find? (·.name = s) with
  | none => rfl
  | some t => simpa using List.find?_some found

theorem Tag.text_ofText (s : String) : (ofText s).text = s := by
  unfold ofText
  split
  · exact afterStart?_append ‹_›
  · split
    · exact afterStart?_append ‹_›
    · rfl

namespace DataItem

/-- Whether an item can have come over the wire. -/
def Wired (item : DataItem) : Prop := ∃ v : Json, Decode.fromJson decoder v = .ok item

/-- The type and the tag of an item are those of their texts. -/
structure Spelled (item : DataItem) : Prop where
  type : DataType.ofName item.type.name = item.type
  tag : ∀ tag, item.tag = some tag → Tag.ofText tag.text = tag

theorem Spelled.of_read {o : Origin} {d : Document} {item : DataItem}
    (read : decoder o d = .ok item) : item.Spelled := by
  obtain ⟨slots, built⟩ := Decode.record_inv read
  obtain ⟨f, tag, withType, rfl, tagged⟩ := Decode.build_defaulted_inv built
  obtain ⟨g, type, withValue, rfl, d, typed⟩ := Decode.build_required_inv withType
  obtain ⟨h, value, start, rfl, -⟩ := Decode.build_required_inv withValue
  cases start
  constructor
  · obtain ⟨s, -, rfl⟩ := Decode.map_ok typed
    exact congrArg DataType.ofName (DataType.name_ofName s)
  · rintro t (rfl : tag = some t)
    rcases tagged with ⟨d, read⟩ | absent
    · obtain ⟨s, -, rfl⟩ := Decode.map_ok (Decode.read_of_optional read)
      exact congrArg Tag.ofText (Tag.text_ofText s)
    · cases absent

theorem Spelled.decoder_encode {item : DataItem} (spelled : item.Spelled) (o : Origin) :
    decoder o (ofJson item.encode) = .ok item := by
  have value : valueDecoder o (ofJson (.string item.value)) = .ok item.value := rfl
  have type : DataType.decoder o (ofJson item.type.encode) = .ok item.type :=
    congrArg Except.ok spelled.type
  have tag : Decode.optional Tag.decoder o (ofJson (Json.orNull (item.tag.map Tag.encode))) =
      .ok item.tag :=
    Decode.optional_orNull (fun _ => Json.noConfusion)
      (fun t tagged => congrArg Except.ok (spelled.tag t tagged))
  apply Decode.record_ofMembers ["Tag", "Type", "Value"] rfl (by decide)
  exact (((Gives.pure DataItem.mk).field rfl value).field rfl type).field rfl tag

theorem Wired.of_read {o : Origin} {d : Document} {item : DataItem}
    (read : decoder o d = .ok item) : item.Wired :=
  ⟨item.encode, (Spelled.of_read read).decoder_encode .value⟩

theorem Wired.spelled {item : DataItem} (wired : item.Wired) : item.Spelled := by
  obtain ⟨v, read⟩ := wired
  exact .of_read read

end DataItem

/-! ## Answers -/

theorem StackDump.decoder_encode (dump : StackDump)
    (size : Text.IntegerRange.signed64.holds dump.memorySize = true)
    (wired : ∀ item ∈ dump.stack, item.Wired) (o : Origin) :
    decoder o (ofJson dump.encode) = .ok dump := by
  have memorySize := Decode.int64_ofJson size o
  have stack : Decode.list DataItem.decoder o (ofJson (.array (dump.stack.map DataItem.encode))) =
      .ok dump.stack :=
    Decode.list_array fun item member => (wired item member).spelled.decoder_encode o
  apply Decode.record_ofMembers ["Stack", "StackMemorySize"] rfl (by decide)
  exact ((Gives.pure StackDump.mk).field rfl memorySize).field rfl stack

theorem Registers.decoder_encode {r : Registers}
    (base : Text.IntegerRange.signed64.holds r.basePointer = true)
    (code : Text.IntegerRange.signed64.holds r.codePointer = true) (o : Origin) :
    decoder o (ofJson r.encode) = .ok r := by
  have basePointer := Decode.int64_ofJson base o
  have codePointer := Decode.int64_ofJson code o
  apply Decode.record_ofMembers ["BasePointer", "CodePointer"] rfl (by decide)
  exact ((Gives.pure Registers.mk).field rfl basePointer).field rfl codePointer

theorem State.decoder_encode (s : State) (o : Origin) : decoder o (ofJson s.encode) = .ok s := by
  cases s <;> rfl

theorem strings_decoder (ss : List String) (o : Origin) :
    Decode.list Decode.string o (ofJson (Json.strings ss)) = .ok ss :=
  Decode.list_array fun s _ => Decode.string_ofJson s o

/-- Whether all numbers of a position fit into 64 bits. -/
structure Position.Fits (p : Position) : Prop where
  startLine : Text.IntegerRange.signed64.holds p.startLine = true
  startChar : Text.IntegerRange.signed64.holds p.startChar = true
  endLine : Text.IntegerRange.signed64.holds p.endLine = true
  endChar : Text.IntegerRange.signed64.holds p.endChar = true
  startTotal : Text.IntegerRange.signed64.holds p.startTotal = true
  endTotal : Text.IntegerRange.signed64.holds p.endTotal = true

theorem Position.decoder_encode {p : Position} (fits : p.Fits) (o : Origin) :
    decoder o (ofJson p.encode) = .ok p := by
  have startLine := Decode.int64_ofJson fits.startLine o
  have startChar := Decode.int64_ofJson fits.startChar o
  have endLine := Decode.int64_ofJson fits.endLine o
  have endChar := Decode.int64_ofJson fits.endChar o
  have startTotal := Decode.int64_ofJson fits.startTotal o
  have endTotal := Decode.int64_ofJson fits.endTotal o
  apply Decode.record_ofMembers
    ["EndChar", "EndLine", "EndTotal", "StartChar", "StartLine", "StartTotal"] rfl (by decide)
  exact ((((((Gives.pure Position.mk).field rfl startLine).field rfl startChar).field rfl endLine).field
    rfl endChar).field rfl startTotal).field rfl endTotal

/-- Whether all numbers of an entry fit into 64 bits. -/
structure DebugInfo.Fits (info : DebugInfo) : Prop where
  startOffset : Text.IntegerRange.signed64.holds info.startOffset = true
  endOffset : Text.IntegerRange.signed64.holds info.endOffset = true
  position : info.position.Fits

theorem DebugInfo.decoder_encode {info : DebugInfo} (fits : info.Fits) (o : Origin) :
    decoder o (ofJson info.encode) = .ok info := by
  have startOffset := Decode.int64_ofJson fits.startOffset o
  have endOffset := Decode.int64_ofJson fits.endOffset o
  have position := Position.decoder_encode fits.position o
  apply Decode.record_ofMembers ["EndOffset", "Position", "StartOffset"] rfl (by decide)
  exact (((Gives.pure DebugInfo.mk).field rfl startOffset).field rfl endOffset).field rfl position

/-! ## What a text keeps of them -/

section

variable {α : Type} {encode : α → Json} {xs : List α}

theorem orderedItems_map (ordered : ∀ x ∈ xs, (encode x).Ordered) :
    Json.OrderedItems (xs.map encode) := by
  induction xs with
  | nil => exact trivial
  | cons x xs ih =>
      exact ⟨ordered x List.mem_cons_self, ih fun y member => ordered y (.tail x member)⟩

theorem integralItems_map (integral : ∀ x ∈ xs, (encode x).Integral) :
    Json.IntegralItems (xs.map encode) := by
  induction xs with
  | nil => exact trivial
  | cons x xs ih =>
      exact ⟨integral x List.mem_cons_self, ih fun y member => integral y (.tail x member)⟩

theorem depthOfItems_map_le {n : Nat} (nested : ∀ x ∈ xs, (encode x).depth ≤ n) :
    Json.depthOfItems (xs.map encode) ≤ n := by
  induction xs with
  | nil => exact Nat.zero_le n
  | cons x xs ih =>
      exact Nat.max_le.mpr
        ⟨nested x List.mem_cons_self, ih fun y member => nested y (.tail x member)⟩

end

/-- A value that a message carries unchanged; `depth` containers are open in it at most. -/
structure Carried (depth : Nat) (v : Json) : Prop where
  ordered : v.Ordered
  integral : v.Integral
  nested : v.depth ≤ depth

namespace Carried

theorem mono {n m : Nat} {v : Json} (carried : Carried n v) (le : n ≤ m) : Carried m v :=
  ⟨carried.ordered, carried.integral, Nat.le_trans carried.nested le⟩

theorem string (s : String) (depth : Nat) : Carried depth (.string s) :=
  ⟨trivial, trivial, Nat.zero_le depth⟩

theorem null (depth : Nat) : Carried depth .null := ⟨trivial, trivial, Nat.zero_le depth⟩

theorem orNull {α : Type} {encode : α → Json} {depth : Nat} (x : Option α)
    (carried : ∀ y, x = some y → Carried depth (encode y)) :
    Carried depth (Json.orNull (x.map encode)) := by
  cases x with
  | none => exact null depth
  | some y => exact carried y rfl

theorem int {n : Int} (fits : Text.IntegerRange.signed64.holds n = true) (depth : Nat) :
    Carried depth (.int n) := by
  have range : -9223372036854775808 ≤ n ∧ n ≤ 9223372036854775807 := by
    rw [Text.IntegerRange.holds, Bool.and_eq_true, decide_eq_true_eq, decide_eq_true_eq] at fits
    exact fits
  refine ⟨trivial, ?_, Nat.zero_le depth⟩
  simp only [Json.Integral]
  omega

theorem array {α : Type} {encode : α → Json} {xs : List α} {depth : Nat}
    (carried : ∀ x ∈ xs, Carried depth (encode x)) :
    Carried (depth + 1) (.array (xs.map encode)) where
  ordered := orderedItems_map fun x member => (carried x member).ordered
  integral := integralItems_map fun x member => (carried x member).integral
  nested := Nat.succ_le_succ (depthOfItems_map_le fun x member => (carried x member).nested)

theorem members {ms : List (String × Json)} {depth : Nat}
    (carried : ∀ m ∈ ms, Carried depth m.2) :
    Json.OrderedMembers ms ∧ Json.IntegralMembers ms ∧ Json.depthOfMembers ms ≤ depth := by
  induction ms with
  | nil => exact ⟨trivial, trivial, Nat.zero_le depth⟩
  | cons m ms ih =>
      obtain ⟨ordered, integral, nested⟩ := ih fun n member => carried n (.tail m member)
      have first := carried m List.mem_cons_self
      exact ⟨⟨first.ordered, ordered⟩, ⟨first.integral, integral⟩,
        Nat.max_le.mpr ⟨first.nested, nested⟩⟩

theorem object {ms : List (String × Json)} {depth : Nat} (keys : List String)
    (named : ms.map (·.1) = keys) (ascending : keys.Pairwise (· < ·))
    (carried : ∀ m ∈ ms, Carried depth m.2) : Carried (depth + 1) (.object ms) := by
  obtain ⟨ordered, integral, nested⟩ := members carried
  have sorted : Json.Sorted ms := by
    rw [Json.Sorted, named]
    exact ascending
  exact ⟨⟨sorted, ordered⟩, integral, Nat.succ_le_succ nested⟩

end Carried

theorem Message.faithful_of_carried {m : Message} (carried : Carried 126 m.data) : m.Faithful where
  ordered := carried.ordered
  integral := carried.integral
  nested := by
    have nested := carried.nested
    have head (r : Option String) : (Json.orNull (r.map Json.string)).depth = 0 := by
      cases r <;> rfl
    simp only [Message.encode, Json.depth, Json.depthOfMembers, head, Document.maxDepth]
    omega

theorem DataItem.carried (item : DataItem) : Carried 1 item.encode := by
  refine Carried.object ["Tag", "Type", "Value"] rfl (by decide) ?_
  simp only [List.forall_mem_cons, List.not_mem_nil, false_implies, implies_true, and_true]
  exact ⟨Carried.orNull item.tag fun tag _ => Carried.string tag.text 0,
    Carried.string item.type.name 0, Carried.string item.value 0⟩

theorem StackDump.carried {dump : StackDump}
    (size : Text.IntegerRange.signed64.holds dump.memorySize = true) : Carried 3 dump.encode := by
  refine Carried.object ["Stack", "StackMemorySize"] rfl (by decide) ?_
  simp only [List.forall_mem_cons, List.not_mem_nil, false_implies, implies_true, and_true]
  exact ⟨Carried.array fun item _ => item.carried, Carried.int size 2⟩

theorem Registers.carried {r : Registers}
    (base : Text.IntegerRange.signed64.holds r.basePointer = true)
    (code : Text.IntegerRange.signed64.holds r.codePointer = true) : Carried 1 r.encode := by
  refine Carried.object ["BasePointer", "CodePointer"] rfl (by decide) ?_
  simp only [List.forall_mem_cons, List.not_mem_nil, false_implies, implies_true, and_true]
  exact ⟨Carried.int base 0, Carried.int code 0⟩

theorem strings_carried (ss : List String) : Carried 1 (Json.strings ss) :=
  Carried.array fun s _ => Carried.string s 0

theorem Position.carried {p : Position} (fits : p.Fits) : Carried 1 p.encode := by
  refine Carried.object
    ["EndChar", "EndLine", "EndTotal", "StartChar", "StartLine", "StartTotal"] rfl
    (by decide) ?_
  simp only [List.forall_mem_cons, List.not_mem_nil, false_implies, implies_true, and_true]
  exact ⟨Carried.int fits.endChar 0, Carried.int fits.endLine 0, Carried.int fits.endTotal 0,
    Carried.int fits.startChar 0, Carried.int fits.startLine 0, Carried.int fits.startTotal 0⟩

theorem DebugInfo.carried {info : DebugInfo} (fits : info.Fits) : Carried 2 info.encode := by
  refine Carried.object ["EndOffset", "Position", "StartOffset"] rfl (by decide) ?_
  simp only [List.forall_mem_cons, List.not_mem_nil, false_implies, implies_true, and_true]
  have position := Position.carried fits.position
  exact ⟨Carried.int fits.endOffset 1, position, Carried.int fits.startOffset 1⟩

theorem Instruction.carried (i : Instruction) : Carried 2 i.encode := by
  refine Carried.object ["Opcode", "Parameter", "Tag"] rfl (by decide) ?_
  simp only [List.forall_mem_cons, List.not_mem_nil, false_implies, implies_true, and_true]
  exact ⟨Carried.string i.opcode 1, Carried.orNull i.parameter fun item _ => item.carried,
    Carried.orNull i.tag fun tag _ => Carried.string tag 1⟩

end Interpreter

end DebugAdapter
