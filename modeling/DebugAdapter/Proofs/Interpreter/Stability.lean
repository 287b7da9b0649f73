import DebugAdapter.Interpreter.Output
import DebugAdapter.Proofs.Interpreter.Answers
import DebugAdapter.Proofs.Json.Ordered
/-!
# Reading, writing and reading again

Whatever shape a value from the wire had, what has been read of it is read again from what is written
of it: fields that were missing or listed without names are written by name, a value that was no text
is written as its text, a foreign type or tag as it was, and a foreign severity as the unknown one.
-/

namespace DebugAdapter.Interpreter

open Document (ofJson maxDepth)
open Decode.Fields (Gives)

/-- What has been read is read again from what is written of it, as a value and as a text. -/
structure Stable {α : Type} (decoder : Decoder α) (encode : α → Json) : Prop where
  value {o d x} : decoder o d = .ok x → ∀ o', decoder o' (ofJson (encode x)) = .ok x
  text {o d x} : decoder o d = .ok x → Decode.fromBytes decoder (encode x).bytes = .ok x

/-- A value that is read again as a value is also read again as a text, if a text can hold it. -/
theorem Stable.of_value {α : Type} {decoder : Decoder α} {encode : α → Json} (depth : Nat)
    (shallow : depth ≤ maxDepth)
    (value : ∀ {o d x}, decoder o d = .ok x → ∀ o', decoder o' (ofJson (encode x)) = .ok x)
    (carried : ∀ {o d x}, decoder o d = .ok x → Carried depth (encode x)) :
    Stable decoder encode where
  value := value
  text read := by
    have carried := carried read
    exact Decode.fromBytes_bytes carried.integral (Nat.le_trans carried.nested shallow)
      (value read .text)

/-! ## Names -/

theorem State.stable : Stable State.decoder State.encode := by
  apply Stable.of_value 0 (by decide)
  · intro o d s _
    exact s.decoder_encode
  · intro o d s _
    exact Carried.string s.name 0

theorem DataType.stable : Stable DataType.decoder DataType.encode := by
  apply Stable.of_value 0 (by decide)
  · intro o d t read o'
    obtain ⟨s, -, rfl⟩ := Decode.map_ok read
    exact congrArg (Except.ok <| ofName ·) (name_ofName s)
  · intro o d t _
    exact Carried.string t.name 0

theorem Tag.stable : Stable Tag.decoder Tag.encode := by
  apply Stable.of_value 0 (by decide)
  · intro o d t read o'
    obtain ⟨s, -, rfl⟩ := Decode.map_ok read
    exact congrArg (Except.ok <| ofText ·) (text_ofText s)
  · intro o d t _
    exact Carried.string t.text 0

theorem Severity.decoder_encode (s : Severity) (o : Origin) :
    decoder o (ofJson s.encode) = .ok s := by
  cases s <;> rfl

theorem Severity.stable : Stable Severity.decoder Severity.encode := by
  apply Stable.of_value 0 (by decide)
  · intro o d s _
    exact s.decoder_encode
  · intro o d s _
    exact Carried.string s.name 0

/-! ## Compiled code -/

theorem DataItem.stable : Stable DataItem.decoder DataItem.encode := by
  apply Stable.of_value 1 (by decide)
  · intro o d item read
    exact (Spelled.of_read read).decoder_encode
  · intro o d item _
    exact item.carried

theorem Position.Fits.of_read {o : Origin} {d : Document} {p : Position}
    (read : decoder o d = .ok p) : p.Fits := by
  obtain ⟨slots, all⟩ := Decode.record_inv read
  obtain ⟨_, endTotal, five, rfl, _, sixth⟩ := Decode.build_required_inv all
  obtain ⟨_, startTotal, four, rfl, _, fifth⟩ := Decode.build_required_inv five
  obtain ⟨_, endChar, three, rfl, _, fourth⟩ := Decode.build_required_inv four
  obtain ⟨_, endLine, two, rfl, _, third⟩ := Decode.build_required_inv three
  obtain ⟨_, startChar, one, rfl, _, second⟩ := Decode.build_required_inv two
  obtain ⟨_, startLine, none_, rfl, _, first⟩ := Decode.build_required_inv one
  cases none_
  exact
    { startLine := Decode.holds_of_int64 first
      startChar := Decode.holds_of_int64 second
      endLine := Decode.holds_of_int64 third
      endChar := Decode.holds_of_int64 fourth
      startTotal := Decode.holds_of_int64 fifth
      endTotal := Decode.holds_of_int64 sixth }

theorem Position.stable : Stable Position.decoder Position.encode := by
  apply Stable.of_value 1 (by decide)
  · intro o d p read
    exact decoder_encode (.of_read read)
  · intro o d p read
    exact carried (.of_read read)

theorem DebugInfo.Fits.of_read {o : Origin} {d : Document} {info : DebugInfo}
    (read : decoder o d = .ok info) : info.Fits := by
  obtain ⟨slots, all⟩ := Decode.record_inv read
  obtain ⟨_, position, two, rfl, _, third⟩ := Decode.build_required_inv all
  obtain ⟨_, endOffset, one, rfl, _, second⟩ := Decode.build_required_inv two
  obtain ⟨_, startOffset, none_, rfl, _, first⟩ := Decode.build_required_inv one
  cases none_
  exact
    { startOffset := Decode.holds_of_int64 first
      endOffset := Decode.holds_of_int64 second
      position := .of_read third }

theorem DebugInfo.stable : Stable DebugInfo.decoder DebugInfo.encode := by
  apply Stable.of_value 2 (by decide)
  · intro o d info read
    exact decoder_encode (.of_read read)
  · intro o d info read
    exact carried (.of_read read)

theorem Instruction.stable : Stable Instruction.decoder Instruction.encode := by
  apply Stable.of_value 2 (by decide)
  · intro o d i read o'
    obtain ⟨slots, all⟩ := Decode.record_inv read
    obtain ⟨_, tag, two, rfl, -⟩ := Decode.build_defaulted_inv all
    obtain ⟨_, parameter, one, rfl, item⟩ := Decode.build_defaulted_inv two
    obtain ⟨_, opcode, none_, rfl, -⟩ := Decode.build_required_inv one
    cases none_
    have parameterRead : Decode.optional DataItem.decoder o'
        (ofJson (Json.orNull (parameter.map DataItem.encode))) = .ok parameter := by
      apply Decode.optional_orNull (fun _ => Json.noConfusion)
      rintro y rfl
      rcases item with ⟨d, read⟩ | absent
      · exact DataItem.stable.value (Decode.read_of_optional read) o'
      · cases absent
    have tagRead : Decode.optional Decode.string o' (ofJson (Json.orNull (tag.map .string))) =
        .ok tag :=
      Decode.optional_orNull (fun _ => Json.noConfusion) (fun _ _ => rfl)
    apply Decode.record_ofMembers ["Opcode", "Parameter", "Tag"] rfl (by decide)
    exact (((Gives.pure Instruction.mk).field rfl (Decode.string_ofJson opcode o')).field rfl
      parameterRead).field rfl tagRead
  · intro o d i _
    exact i.carried

theorem Registers.fits_of_read {o : Origin} {d : Document} {r : Registers}
    (read : decoder o d = .ok r) : Text.IntegerRange.signed64.holds r.basePointer = true ∧
      Text.IntegerRange.signed64.holds r.codePointer = true := by
  obtain ⟨slots, all⟩ := Decode.record_inv read
  obtain ⟨_, code, one, rfl, _, second⟩ := Decode.build_required_inv all
  obtain ⟨_, base, none_, rfl, _, first⟩ := Decode.build_required_inv one
  cases none_
  exact ⟨Decode.holds_of_int64 first, Decode.holds_of_int64 second⟩

theorem Registers.stable : Stable Registers.decoder Registers.encode := by
  apply Stable.of_value 1 (by decide)
  · intro o d r read
    obtain ⟨base, code⟩ := fits_of_read read
    exact decoder_encode base code
  · intro o d r read
    obtain ⟨base, code⟩ := fits_of_read read
    exact carried base code

theorem StackDump.fits_of_read {o : Origin} {d : Document} {dump : StackDump}
    (read : decoder o d = .ok dump) : Text.IntegerRange.signed64.holds dump.memorySize = true ∧
      ∀ item ∈ dump.stack, item.Wired := by
  obtain ⟨slots, all⟩ := Decode.record_inv read
  obtain ⟨_, stack, one, rfl, _, second⟩ := Decode.build_required_inv all
  obtain ⟨_, size, none_, rfl, first⟩ := Decode.build_defaulted_inv one
  cases none_
  constructor
  · rcases first with ⟨d, read⟩ | rfl
    · exact Decode.holds_of_int64 read
    · rfl
  · intro item mem
    obtain ⟨d, read⟩ := Decode.read_of_mem_list second mem
    exact .of_read read

theorem StackDump.stable : Stable StackDump.decoder StackDump.encode := by
  apply Stable.of_value 3 (by decide)
  · intro o d dump read
    obtain ⟨size, wired⟩ := fits_of_read read
    exact dump.decoder_encode size wired
  · intro o d dump read
    exact carried (fits_of_read read).1

/-! ## Console output -/

theorem WireContext.holds_of_read {o : Origin} {d : Document} {w : WireContext}
    (read : decoder o d = .ok w) : Text.IntegerRange.signed64.holds w.codePointer = true := by
  obtain ⟨slots, all⟩ := Decode.record_inv read
  obtain ⟨_, callStack, one, rfl, -⟩ := Decode.build_defaulted_inv all
  obtain ⟨_, codePointer, none_, rfl, _, first⟩ := Decode.build_required_inv one
  cases none_
  exact Decode.holds_of_int64 first

theorem WireContext.carried {w : WireContext}
    (fits : Text.IntegerRange.signed64.holds w.codePointer = true) : Carried 2 w.encode := by
  apply Carried.object ["CallStack", "CodePointer"] rfl (by decide)
  simp only [List.forall_mem_cons, List.not_mem_nil, false_implies, implies_true, and_true]
  exact ⟨strings_carried w.callStack, Carried.int fits 1⟩

theorem WireContext.stable : Stable WireContext.decoder WireContext.encode := by
  apply Stable.of_value 2 (by decide)
  · intro o d w read o'
    have codePointer := Decode.int64_ofJson (holds_of_read read) o'
    apply Decode.record_ofMembers ["CallStack", "CodePointer"] rfl (by decide)
    exact ((Gives.pure WireContext.mk).field rfl codePointer).field rfl
      (strings_decoder w.callStack o')
  · intro o d w read
    exact carried (holds_of_read read)

theorem ConsoleOut.context_of_read {o : Origin} {d : Document} {c : ConsoleOut}
    (read : decoder o d = .ok c) {w : WireContext} (there : c.context = some w) :
    ∃ d, WireContext.decoder o d = .ok w := by
  obtain ⟨slots, all⟩ := Decode.record_inv read
  obtain ⟨_, context, two, rfl, third⟩ := Decode.build_defaulted_inv all
  obtain ⟨_, severity, one, rfl, -⟩ := Decode.build_required_inv two
  obtain ⟨_, message, none_, rfl, -⟩ := Decode.build_required_inv one
  cases none_
  cases there
  rcases third with ⟨d, read⟩ | absent
  · exact ⟨d, Decode.read_of_optional read⟩
  · cases absent

theorem ConsoleOut.stable : Stable ConsoleOut.decoder ConsoleOut.encode := by
  apply Stable.of_value 3 (by decide)
  · intro o d c read o'
    have context : Decode.optional WireContext.decoder o'
        (ofJson (Json.orNull (c.context.map WireContext.encode))) = .ok c.context := by
      apply Decode.optional_orNull (fun _ => Json.noConfusion)
      intro w there
      obtain ⟨d, read⟩ := context_of_read read there
      exact WireContext.stable.value read o'
    apply Decode.record_ofMembers ["Context", "Message", "Type"] rfl (by decide)
    exact (((Gives.pure ConsoleOut.mk).field rfl (Decode.string_ofJson c.message o')).field rfl
      (c.severity.decoder_encode o')).field rfl context
  · intro o d c read
    apply Carried.object ["Context", "Message", "Type"] rfl (by decide)
    simp only [List.forall_mem_cons, List.not_mem_nil, false_implies, implies_true, and_true]
    refine ⟨Carried.orNull c.context ?_, Carried.string c.message 2, Carried.string c.severity.name 2⟩
    intro w there
    obtain ⟨d, read⟩ := context_of_read read there
    exact WireContext.carried (WireContext.holds_of_read read)

/-! ## Messages -/

theorem Message.ordered_of_read {o : Origin} {d : Document} {m : Message}
    (read : decoder o d = .ok m) : m.data.Ordered := by
  obtain ⟨slots, all⟩ := Decode.record_inv read
  obtain ⟨_, data, three, rfl, fourth⟩ := Decode.build_defaulted_inv all
  obtain ⟨_, reply, two, rfl, -⟩ := Decode.build_defaulted_inv three
  obtain ⟨_, id, one, rfl, -⟩ := Decode.build_required_inv two
  obtain ⟨_, type, none_, rfl, -⟩ := Decode.build_required_inv one
  cases none_
  rcases fourth with ⟨d, read⟩ | rfl
  · exact Decode.ordered_of_json read
  · trivial

/-- Whatever is read from the wire is read again from what is written of it. A message's payload may
be any value: as a value it is kept whole, and in a text it is if that can hold it. Types and tags
have the texts that they were made of. -/
theorem wire_stable :
    Stable State.decoder State.encode ∧ Stable DataType.decoder DataType.encode ∧
      Stable Tag.decoder Tag.encode ∧ Stable DataItem.decoder DataItem.encode ∧
      Stable Position.decoder Position.encode ∧ Stable DebugInfo.decoder DebugInfo.encode ∧
      Stable Instruction.decoder Instruction.encode ∧ Stable Registers.decoder Registers.encode ∧
      Stable StackDump.decoder StackDump.encode ∧ Stable Severity.decoder Severity.encode ∧
      Stable WireContext.decoder WireContext.encode ∧ Stable ConsoleOut.decoder ConsoleOut.encode ∧
      (∀ o d m, Message.decoder o d = .ok m →
        (∀ o', Message.decoder o' (ofJson m.encode) = .ok m) ∧
        (m.data.Integral → m.encode.depth ≤ maxDepth →
          Decode.fromBytes Message.decoder m.encode.bytes = .ok m)) ∧
      (∀ s, (Tag.ofText s).text = s) ∧ ∀ s, (DataType.ofName s).name = s := by
  refine ⟨State.stable, DataType.stable, Tag.stable, DataItem.stable, Position.stable,
    DebugInfo.stable, Instruction.stable, Registers.stable, StackDump.stable, Severity.stable,
    WireContext.stable, ConsoleOut.stable, ?_, Tag.text_ofText, DataType.name_ofName⟩
  intro o d m read
  have ordered := Message.ordered_of_read read
  constructor
  · exact Message.decoder_encode ordered
  · intro integral nested
    exact Message.fromBytes_encode ⟨ordered, integral, nested⟩

/-- An item listed without names, with a number for its value, a foreign type and no tag, and a
message without a payload. -/
theorem wire_stable_listed :
    let item : DataItem := ⟨"5", .other "VECTOR", none⟩
    let m : Message := ⟨"base/ping/req", "1", none, .null⟩
    DataItem.decoder .text (ofJson (.array [.int 5, .string "VECTOR"])) = .ok item ∧
      (∀ o, DataItem.decoder o (ofJson item.encode) = .ok item) ∧
      Message.decoder .value (ofJson (.object [("id", .string "1"), ("type", .string "base/ping/req")])) =
        .ok m ∧
      Decode.fromBytes Message.decoder m.encode.bytes = .ok m := by
  intro item m
  obtain ⟨-, -, -, items, -, -, -, -, -, -, -, -, messages, -, -⟩ := wire_stable
  have read : DataItem.decoder .text (ofJson (.array [.int 5, .string "VECTOR"])) = .ok item := rfl
  have told : Message.decoder .value
      (ofJson (.object [("id", .string "1"), ("type", .string "base/ping/req")])) = .ok m := rfl
  exact ⟨read, items.value read, told, (messages _ _ _ told).2 trivial (by decide)⟩

end DebugAdapter.Interpreter
