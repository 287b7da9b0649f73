import DebugAdapter.Proofs.Control.Grounds
import DebugAdapter.Proofs.Session.Ending
import DebugAdapter.Proofs.Session.Paging
import DebugAdapter.Proofs.Session.Relay
import DebugAdapter.Proofs.Session.Replacement
import DebugAdapter.Proofs.Text.Hexadecimal
/-!
# Addresses that come back

An address is read as the number that it shows, in decimal or in hexadecimal, whatever blanks stand
around it. So the editor can send back the address of a frame, and a breakpoint is set so many
instructions behind that of the frame as it asks for.
-/

namespace DebugAdapter

open Protocol

namespace Session

open Handler (sourceOf)
open Text (IntegerRange IsHexadecimal)

/-! ## Texts -/

/-- A number in decimal, or in hexadecimal if it is not negative. -/
inductive IsAddress : List Char → Int → Prop
  | decimal (n : Int) : IsAddress (toString n).toList n
  | hexadecimal {mark : Char} {digits : List Char} {n : Nat} (marked : mark = 'x' ∨ mark = 'X')
      (digits_ : IsHexadecimal digits n) : IsAddress ('0' :: mark :: digits) n

/-- What is shown of a number is an address of it, unless it is shown with a sign before `0x`. -/
theorem isAddress_numberText {hex : Bool} {n : Int} (shown : hex = false ∨ 0 ≤ n) :
    IsAddress (numberText hex n).toList n := by
  cases hex with
  | false => exact .decimal n
  | true =>
      have positive : 0 ≤ n := shown.resolve_left (by simp)
      have digits : IsHexadecimal (Text.hexDigits n.natAbs).toList n.natAbs := by
        rw [Text.hexDigits, String.toList_ofList]
        exact Text.isHexadecimal_toDigits n.natAbs
      have address := IsAddress.hexadecimal (.inl rfl) digits
      rw [numberText, if_pos rfl, hexText, if_neg (Int.not_lt.mpr positive), String.toList_append]
      rwa [Int.natAbs_of_nonneg positive] at address

section

variable {cs : List Char} {n : Int} (address : IsAddress cs n)
include address

theorem IsAddress.visible : ∀ c ∈ cs, Text.isBlank c = false := by
  cases address with
  | decimal => exact (Text.isNumeral_toString n).visible
  | hexadecimal marked digits_ =>
      refine List.forall_mem_cons.mpr ⟨rfl, List.forall_mem_cons.mpr ⟨?_, digits_.visible⟩⟩
      obtain rfl | rfl := marked <;> rfl

theorem IsAddress.parse (holds : IntegerRange.signed64.holds n = true) {front back : List Char}
    (hfront : ∀ c ∈ front, Text.isBlank c = true) (hback : ∀ c ∈ back, Text.isBlank c = true) :
    parseAddress? (String.ofList (front ++ (cs ++ back))) = some n := by
  have inner := Text.trimChars_append hfront hback
    (fun c first => address.visible c (List.mem_of_mem_head? first))
    (fun c last => address.visible c (List.mem_of_getLast? last))
  rw [parseAddress?, String.toList_ofList, inner]
  cases address with
  | decimal =>
      have numeral := Text.isNumeral_toString n
      have read := (Text.readInteger_eq_ok (by decide) (by decide)).mpr ⟨numeral, holds⟩
      have second (c : Char) (rest : List Char) (cut : (toString n).toList = '0' :: c :: rest) :
          c.isDigit = true ∨ c = '+' ∨ c = '-' :=
        numeral.isDigit_or_sign c (cut ▸ List.mem_cons_of_mem _ List.mem_cons_self)
      split
      · rename_i rest cut
        exact absurd (second 'x' rest cut) (by decide)
      · rename_i rest cut
        exact absurd (second 'X' rest cut) (by decide)
      · rw [read]
        rfl
  | @hexadecimal mark digits n marked digits_ =>
      have fits : (n : Int) ≤ IntegerRange.signed64.high := by
        simp only [IntegerRange.holds, Bool.and_eq_true, decide_eq_true_eq] at holds
        exact holds.2
      have read := digits_.readInteger (by decide : IntegerRange.signed64.low ≤ 0) fits
      obtain rfl | rfl := marked <;> simp only [read] <;> rfl

end

theorem parseAddress?_toString {n : Int} (holds : IntegerRange.signed64.holds n = true) :
    parseAddress? (toString n) = some n := by
  have read := (IsAddress.decimal n).parse holds (List.forall_mem_nil _) (List.forall_mem_nil _)
  rwa [List.nil_append, List.append_nil, String.ofList_toList] at read

/-! ## Frames -/

/-- What every interpreter shows was read from its answers. -/
theorem grounded_run (config : Monitor.Config) (home : String) (refusal : Option Monitor.Refusal)
    (patience : Millis) (happenings : List Happening) :
    let t := Trace.run step (opening config home refusal patience) happenings
    ∀ d ∈ t.state.control.debuggees, d.Grounded := by
  refine Trace.run_invariant step (P := fun t => ∀ d ∈ t.state.control.debuggees, d.Grounded)
    (List.forall_mem_nil _) ?_ happenings
  intro t h grounded
  obtain ⟨m, -, before, after⟩ | ⟨-, tells⟩ := (t.state.turns h).tells
  · rw [← before] at grounded
    exact after ▸ Control.Moment.grounded_next grounded
  · exact tells.every (fun told grounded => grounded.congr told.snapshot) grounded

namespace StackRead

/-- Whether a frame is shown for a function of the call stack, with the place where it stands. -/
structure Refers (p : StackRead) (frame : StackFrame) (offset : Int) : Prop where
  function : ∃ snapshot file, p.session.control.snapshot? = some snapshot ∧
    .source frame.name file offset frame.line ∈ snapshot.callStack.getD [] ∧
    frame.source = some (sourceOf file)
  reference : frame.instructionPointerReference = some (toString offset)

/-- Whether a frame is shown for the current instruction. It has no address. -/
structure Tops (p : StackRead) (frame : StackFrame) : Prop where
  instruction : ∃ snapshot, p.session.control.snapshot? = some snapshot ∧
    frame.name = "Instruction " ++ toString snapshot.codePointer
  reference : frame.instructionPointerReference = none

/-- A frame is shown for the current instruction or for a function. -/
theorem Answers.origin {p : StackRead} {shown : List StackFrame} {total : Nat}
    (answers : p.Answers shown total) {frame : StackFrame} (mem : frame ∈ shown) :
    p.Tops frame ∨ ∃ offset, p.Refers frame offset := by
  have inside : frame ∈ p.frames := by
    rw [answers.eq.1] at mem
    exact List.mem_of_mem_drop (List.mem_of_mem_take mem)
  obtain ⟨f, held, rfl⟩ := List.mem_map.mp inside
  cases known : p.session.control.snapshot? with
  | none => simp [Control.frames, known] at held
  | some snapshot =>
      have held : f ∈ snapshot.frames := by simpa [Control.frames, known] using held
      obtain ⟨name, none_⟩ | ⟨offset, some_, entry⟩ := snapshot.origin_of_mem_frames held
      · exact .inl ⟨⟨snapshot, known, name⟩, congrArg (Option.map toString) none_⟩
      · exact .inr ⟨offset, ⟨snapshot, f.file, known, entry, rfl⟩,
          congrArg (Option.map toString) some_⟩

/-- The place of a function was read as a number of 64 bits. -/
theorem Refers.holds {p : StackRead} {frame : StackFrame} {offset : Int}
    (refers : p.Refers frame offset) (grounded : ∀ d ∈ p.session.control.debuggees, d.Grounded) :
    IntegerRange.signed64.holds offset = true := by
  obtain ⟨snapshot, file, known, entry, -⟩ := refers.function
  obtain ⟨d, current, rfl⟩ := Option.map_eq_some_iff.mp known
  obtain ⟨i, -, there⟩ := Option.bind_eq_some_iff.mp current
  obtain ⟨log, details⟩ := grounded d (List.mem_of_getElem? there)
  exact details.holds_offset entry

end StackRead

/-! ## Breakpoints -/

/-- A request for one instruction breakpoint that a session handles. -/
structure InstructionPoint where
  session : Session
  now : Millis
  request : Request
  entry : InstructionBreakpoint
  handled : session.handled? (.activity now .read) = some request
  parsed : request.parse = .ok (.setInstructionBreakpoints { breakpoints := [entry] })

namespace InstructionPoint

variable (b : InstructionPoint)

/-- How many instructions behind its reference it asks for. -/
def offset : Int := b.entry.offset.getD 0

/-- Whether it is granted, and the breakpoint is on some instruction and on no other. -/
structure Sets (address : Int) : Prop where
  granted : b.session.produced (.activity b.now .read) =
    [.response (.ok b.request (.breakpoints [{ verified := true }]))]
  stops : ∀ a, (b.session.happen (.activity b.now .read)).breakpoints.stopsAtInstruction a = true ↔
    a = address

variable {b}

theorem sets {base : Int} (read : parseAddress? b.entry.instructionReference = some base) :
    b.Sets (base + b.offset) := by
  have sets := b.session.setsInstructionBreakpoints
  constructor
  · rw [sets.reported _ _ _ b.handled b.parsed]
    simp [read]
  · intro a
    rw [sets.set _ _ _ b.handled b.parsed]
    simp [read, offset, eq_comm]

end InstructionPoint

/-- Whether the addresses in an answer can be sent back. -/
structure StackRead.ComesBack (p : StackRead) : Prop where
  answered : ∃ shown total, p.Answers shown total
  /-- Only the frame of the current instruction has no address. -/
  unreferred : ∀ shown total, p.Answers shown total → ∀ frame ∈ shown,
    frame.instructionPointerReference = none → p.Tops frame
  /-- An address is the place in the program where a function stands, and a breakpoint that it is
  sent back for is set there, or as far behind it as it asks for. -/
  referred : ∀ shown total, p.Answers shown total → ∀ frame ∈ shown, ∀ reference,
    frame.instructionPointerReference = some reference →
      ∃ offset, p.Refers frame offset ∧ IntegerRange.signed64.holds offset = true ∧
        ∀ b : InstructionPoint, b.entry.instructionReference = reference →
          IntegerRange.signed64.holds (offset + b.offset) = true → b.Sets (offset + b.offset)

theorem StackRead.comesBack (p : StackRead)
    (grounded : ∀ d ∈ p.session.control.debuggees, d.Grounded) : p.ComesBack where
  answered := p.exact.answered
  unreferred shown total answers frame mem none_ := by
    obtain tops | ⟨offset, refers⟩ := answers.origin mem
    · exact tops
    · cases none_.symm.trans refers.reference
  referred shown total answers frame mem reference some_ := by
    obtain tops | ⟨offset, refers⟩ := answers.origin mem
    · cases some_.symm.trans tops.reference
    · obtain rfl : reference = toString offset :=
        Option.some.inj (some_.symm.trans refers.reference)
      have holds := refers.holds grounded
      refine ⟨offset, refers, holds, fun b same _ => ?_⟩
      exact b.sets (same ▸ parseAddress?_toString holds)

/-- What is shown of a number is an address of it, an address is read as its number whatever blanks
stand around it, and so the addresses of frames can be sent back in every run. -/
theorem addresses_come_back :
    (∀ hex n, hex = false ∨ 0 ≤ n → IsAddress (numberText hex n).toList n) ∧
      (∀ cs n, IsAddress cs n → IntegerRange.signed64.holds n = true → ∀ front back,
        (∀ c ∈ front, Text.isBlank c = true) → (∀ c ∈ back, Text.isBlank c = true) →
          parseAddress? (String.ofList (front ++ (cs ++ back))) = some n) ∧
      ∀ config home refusal patience happenings (p : StackRead),
        p.session = (Trace.run step (opening config home refusal patience) happenings).state →
          p.ComesBack := by
  refine ⟨fun _ _ => isAddress_numberText, ?_, ?_⟩
  · intro cs n address holds front back hfront hback
    exact address.parse holds hfront hback
  · intro config home refusal patience happenings p reached
    refine p.comesBack ?_
    rw [reached]
    exact grounded_run config home refusal patience happenings

/-- A request, as an editor sends it. -/
def requestFor (seq : Int) (command : String) (arguments : Json) : Bytes :=
  Framing.Headed.encode
    (.object [("seq", .int seq), ("command", .string command), ("arguments", arguments)])

/-- The answers of an interpreter to the questions of the first tick. One function stands at the
least place. -/
def deepStatus : Bytes :=
  replyTo "1" "null" ++ replyTo "2" "null" ++
    replyTo "3" "[\"State: CallUpdate\",\"main;p.ssl;-9223372036854775808;3\"]" ++
    replyTo "4" "\"CallUpdate\""

def stackRequest : Bytes := requestFor 3 "stackTrace" (.object [("threadId", .int 1)])

/-- Something happens to the first interpreter. -/
def within (a : Debuggee.Activity) : Happening := .activity 2000 (.control (.debuggee 0 a))

/-- A launch, the first status, and a request for the stack. -/
def traced : List Happening :=
  [.editor { octets := launchRequest } {}, .activity 0 .read, .activity 1000 (.resume 0),
    .activity 1000 (.control (.ask 0)), .activity 1000 (.control .grant), within .poll,
    within (.link .command), within (.link .command), within (.link .command),
    within (.link .command), .interpreter 0 { inbound := { octets := deepStatus } } {} none,
    within (.link .read), within (.link .read), within (.link .read), within (.link .read),
    within (.settle 0), within (.settle 0), within (.settle 0), within (.settle 0),
    .activity 2000 (.control .advance), .editor { octets := stackRequest } {}]

/-- The frame that is shown for the function. -/
def deepest : StackFrame :=
  { id := 0, name := "main", source := some (sourceOf "p.ssl"), line := 3, column := 0
    instructionPointerReference := some "-9223372036854775808" }

theorem traced_shows :
    ((Trace.run step (opening {} "/" none 1000) traced).state.handled? (.activity 2000 .read)).map
        Request.parse =
      some (.ok (.stackTrace { threadId := some 1, startFrame := none, levels := none })) ∧
    (Trace.run step (opening {} "/" none 1000) traced).state.control.frames.map Handler.stackFrame =
      [deepest] := by
  decide +kernel

/-- The editor sends the address of the function, and a distance. -/
def pointed : Session :=
  { opening {} "/" none 1000 with
    incoming := { octets := requestFor 4 "setInstructionBreakpoints" (.object [("breakpoints",
      .array [.object [("instructionReference", .string "-9223372036854775808"),
        ("offset", .int 9223372036854775807)]])]) } }

def pointing : InstructionPoint where
  session := pointed
  now := 3000
  request := (pointed.handled? (.activity 3000 .read)).get (by decide +kernel)
  entry := { instructionReference := "-9223372036854775808", offset := some 9223372036854775807 }
  handled := (Option.some_get _).symm
  parsed := by decide +kernel

/-- The greatest number between blanks, and a breakpoint as far behind the least place as can be. -/
theorem addresses_come_back_extremes :
    parseAddress? "\t 0X7fffFFFFffffFFFF\n" = some 9223372036854775807 ∧ pointing.Sets (-1) := by
  obtain ⟨-, parse, back⟩ := addresses_come_back
  constructor
  · have digits : IsHexadecimal "7fffFFFFffffFFFF".toList 9223372036854775807 := by
      unfold IsHexadecimal
      decide +kernel
    exact parse _ _ (.hexadecimal (.inr rfl) digits) (by decide) ['\t', ' '] ['\n']
      (by simp [Text.isBlank]) (by simp [Text.isBlank])
  · obtain ⟨asked, frames⟩ := traced_shows
    obtain ⟨request, handled, parsed⟩ := Option.map_eq_some_iff.mp asked
    let p : StackRead := ⟨_, _, request, _, handled, parsed⟩
    have frames : p.frames = [deepest] := frames
    have comesBack := back {} "/" none 1000 traced p rfl
    obtain ⟨shown, total, answers⟩ := comesBack.answered
    have mem : deepest ∈ shown := by
      rw [p.exact.rest (.inl rfl) shown total answers, frames]
      exact List.mem_singleton_self _
    obtain ⟨offset, refers, holds, sets⟩ :=
      comesBack.referred shown total answers deepest mem "-9223372036854775808" rfl
    have reference : "-9223372036854775808" = toString offset := Option.some.inj refers.reference
    have small : IntegerRange.signed64.holds (-9223372036854775808) = true := by decide
    have read : parseAddress? "-9223372036854775808" = some (-9223372036854775808) :=
      parseAddress?_toString small
    have least : offset = -9223372036854775808 := by
      rw [reference, parseAddress?_toString holds] at read
      exact Option.some.inj read
    subst least
    exact sets pointing rfl (by decide)

end Session

end DebugAdapter
