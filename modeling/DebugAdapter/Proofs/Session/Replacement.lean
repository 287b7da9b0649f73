import DebugAdapter.Proofs.Program.Accesses
import DebugAdapter.Proofs.Session.Breakpoints
/-!
# Data and instruction breakpoints

A request to set the data breakpoints, or the instruction breakpoints, replaces all of them and
touches no others. Which ones there are afterwards depends on the entries of the request, but not on
their order, and not on the breakpoints that there were.
-/

namespace DebugAdapter.Session

open Protocol
open Program (Breakpoints DataAccess)
open Program.Breakpoints (SameLines asked)

/-! ## What the entries ask for -/

/-- Whether an access is what the entries for an address ask for together. An entry that names no
access asks to write. -/
structure Grants (entries : List DataBreakpoint) (address : String) (access : Option DataAccess) :
    Prop where
  present : access.isSome = true ↔ ∃ b ∈ entries, b.dataId = address
  read : access = some .read ↔ (∃ b ∈ entries, b.dataId = address) ∧
    ∀ b ∈ entries, b.dataId = address → b.accessType = some .read
  write : access = some .write ↔ (∃ b ∈ entries, b.dataId = address) ∧
    ∀ b ∈ entries, b.dataId = address → b.accessType = some .write ∨ b.accessType = none
  both : access = some .readWrite ↔ (∃ b ∈ entries, b.dataId = address) ∧
    (¬ ∀ b ∈ entries, b.dataId = address → b.accessType = some .read) ∧
    ¬ ∀ b ∈ entries, b.dataId = address → b.accessType = some .write ∨ b.accessType = none

/-- Neither the order nor the number of the entries matters. -/
theorem Grants.unique {entries entries' : List DataBreakpoint} {address : String}
    {access access' : Option DataAccess} (grants : Grants entries address access)
    (grants' : Grants entries' address access') (same : ∀ b, b ∈ entries ↔ b ∈ entries') :
    access = access' := by
  apply Option.ext
  intro a
  cases a with
  | read => simp only [grants.read, grants'.read, same]
  | write => simp only [grants.write, grants'.write, same]
  | readWrite => simp only [grants.both, grants'.both, same]

theorem accessOf_eq_read {type : Option AccessType} :
    Handler.accessOf type = .read ↔ type = some .read := by
  rcases type with _ | _ | _ | _ <;> simp [Handler.accessOf]

theorem accessOf_eq_write {type : Option AccessType} :
    Handler.accessOf type = .write ↔ type = some .write ∨ type = none := by
  rcases type with _ | _ | _ | _ <;> simp [Handler.accessOf]

/-- The addresses of some entries, with the accesses that they ask for. -/
def requested (entries : List DataBreakpoint) : List (String × DataAccess) :=
  entries.map fun b => (b.dataId, Handler.accessOf b.accessType)

theorem asked_requested_ne_nil {entries : List DataBreakpoint} {address : String} :
    asked (requested entries) address ≠ [] ↔ ∃ b ∈ entries, b.dataId = address := by
  simp [asked, requested, List.filter_eq_nil_iff]

theorem forall_mem_asked_requested {entries : List DataBreakpoint} {address : String}
    {P : DataAccess → Prop} : (∀ a ∈ asked (requested entries) address, P a) ↔
      ∀ b ∈ entries, b.dataId = address → P (Handler.accessOf b.accessType) := by
  simp only [asked, requested, List.filter_map, List.forall_mem_map, List.mem_filter,
    Function.comp_apply, decide_eq_true_eq, and_imp]

theorem grants_together (entries : List DataBreakpoint) (address : String) :
    Grants entries address (DataAccess.together? (asked (requested entries) address)) := by
  have occurs : asked (requested entries) address ≠ [] ↔ ∃ b ∈ entries, b.dataId = address :=
    asked_requested_ne_nil
  generalize together : DataAccess.together? (asked (requested entries) address) = access
  have present : access.isSome = true ↔ ∃ b ∈ entries, b.dataId = address := by
    rw [← occurs, Option.isSome_iff_ne_none, ← together, ne_eq, DataAccess.together?_eq_none]
  have read : access = some .read ↔ (∃ b ∈ entries, b.dataId = address) ∧
      ∀ b ∈ entries, b.dataId = address → b.accessType = some .read := by
    rw [← together, DataAccess.together?_eq_some (by decide), occurs, forall_mem_asked_requested]
    simp only [accessOf_eq_read]
  have write : access = some .write ↔ (∃ b ∈ entries, b.dataId = address) ∧
      ∀ b ∈ entries, b.dataId = address → b.accessType = some .write ∨ b.accessType = none := by
    rw [← together, DataAccess.together?_eq_some (by decide), occurs, forall_mem_asked_requested]
    simp only [accessOf_eq_write]
  have both : access = some .readWrite ↔
      access.isSome = true ∧ access ≠ some .read ∧ access ≠ some .write := by
    rcases access with _ | _ | _ | _ <;> simp
  refine ⟨present, read, write, ?_⟩
  rw [both, present, ne_eq, read, ne_eq, write]
  grind

/-! ## Requests -/

variable {s : Session}

/-- A request that changes the breakpoints and is answered at once does nothing else. -/
theorem changes_breakpoints {now : Millis} {r : Request} {command : Command}
    {f : Breakpoints → Breakpoints} {body : ResponseBody}
    (handled : s.handled? (.activity now .read) = some r) (parsed : r.parse = .ok command)
    (goesOn : Handler.isFarewell command = false)
    (carried : ∀ h : Handler, h.carryOut now r command = (h.withBreakpoints f).succeed r body) :
    s.produced (.activity now .read) = [.response (.ok r body)] ∧
      ∃ outbox, (s.happen (.activity now .read)).handler =
        { s.handler.withBreakpoints f with outbox } := by
  constructor
  · have produces : Handler.Produces (fun h => h.carryOut now r command) s.handler
        [.response (.ok r body)] :=
      Handler.produces_send (m := fun _ => .response (.ok r body)) carried (fun _ => rfl)
        (fun _ => rfl) (fun _ => rfl)
    exact produced_carryOut handled parsed produces
  · rw [handler_read handled parsed goesOn, carried]
    exact Handler.send_rest _ _

/-- What a request to set the data breakpoints does, in any session. -/
structure SetsDataBreakpoints (s : Session) : Prop where
  /-- An address has what the entries for it ask for. -/
  granted : ∀ now r args, s.handled? (.activity now .read) = some r →
    r.parse = .ok (.setDataBreakpoints args) → ∀ address,
      Grants args.breakpoints address
        ((s.happen (.activity now .read)).breakpoints.dataAccess? address)
  /-- It is the same if the entries come in another order or more than once, or in another
  session. -/
  unordered : ∀ now r args, s.handled? (.activity now .read) = some r →
    r.parse = .ok (.setDataBreakpoints args) → ∀ (s' : Session) now' r' args',
      s'.handled? (.activity now' .read) = some r' → r'.parse = .ok (.setDataBreakpoints args') →
        (∀ b, b ∈ args.breakpoints ↔ b ∈ args'.breakpoints) → ∀ address,
          (s.happen (.activity now .read)).breakpoints.dataAccess? address =
            (s'.happen (.activity now' .read)).breakpoints.dataAccess? address
  /-- Every entry is accepted. -/
  reported : ∀ now r args, s.handled? (.activity now .read) = some r →
    r.parse = .ok (.setDataBreakpoints args) →
      s.produced (.activity now .read) =
        [.response (.ok r (.breakpoints (args.breakpoints.map fun _ => { verified := true })))]
  /-- The other breakpoints are as before. -/
  others : ∀ now r args, s.handled? (.activity now .read) = some r →
    r.parse = .ok (.setDataBreakpoints args) →
      SameLines s.breakpoints (s.happen (.activity now .read)).breakpoints ∧
      (s.happen (.activity now .read)).breakpoints.instructions = s.breakpoints.instructions
  /-- Nothing else changes but for the queue. -/
  rest : ∀ now r args, s.handled? (.activity now .read) = some r →
    r.parse = .ok (.setDataBreakpoints args) → ∃ bs outbox,
      (s.happen (.activity now .read)).handler = { s.handler.withBreakpoints fun _ => bs with outbox }

/-- What a request to set the instruction breakpoints does, in any session. -/
structure SetsInstructionBreakpoints (s : Session) : Prop where
  /-- An instruction has a breakpoint if an entry leads to it: so many instructions behind the one
  that its reference names. -/
  set : ∀ now r args, s.handled? (.activity now .read) = some r →
    r.parse = .ok (.setInstructionBreakpoints args) → ∀ address,
      (s.happen (.activity now .read)).breakpoints.stopsAtInstruction address = true ↔
        ∃ b ∈ args.breakpoints, ∃ base, parseAddress? b.instructionReference = some base ∧
          base + b.offset.getD 0 = address
  /-- An entry is accepted if its reference can be read. -/
  reported : ∀ now r args, s.handled? (.activity now .read) = some r →
    r.parse = .ok (.setInstructionBreakpoints args) →
      s.produced (.activity now .read) = [.response (.ok r (.breakpoints (args.breakpoints.map
        fun b => { verified := (parseAddress? b.instructionReference).isSome })))]
  /-- The other breakpoints are as before. -/
  others : ∀ now r args, s.handled? (.activity now .read) = some r →
    r.parse = .ok (.setInstructionBreakpoints args) →
      SameLines s.breakpoints (s.happen (.activity now .read)).breakpoints ∧
      (s.happen (.activity now .read)).breakpoints.data = s.breakpoints.data
  /-- Nothing else changes but for the queue. -/
  rest : ∀ now r args, s.handled? (.activity now .read) = some r →
    r.parse = .ok (.setInstructionBreakpoints args) → ∃ bs outbox,
      (s.happen (.activity now .read)).handler = { s.handler.withBreakpoints fun _ => bs with outbox }

section

variable {now : Millis} {r : Request} (handled : s.handled? (.activity now .read) = some r)

include handled

theorem carried_setDataBreakpoints {args : SetDataBreakpoints}
    (parsed : r.parse = .ok (.setDataBreakpoints args)) :
    s.produced (.activity now .read) =
        [.response (.ok r (.breakpoints (args.breakpoints.map fun _ => { verified := true })))] ∧
      ∃ outbox, (s.happen (.activity now .read)).handler = { s.handler.withBreakpoints fun bs =>
        (requested args.breakpoints).foldl (fun bs e => bs.setData e.1 e.2) bs.clearData
        with outbox } := by
  apply changes_breakpoints handled parsed rfl
  intro h
  simp only [requested, List.foldl_map]
  rfl

theorem carried_setInstructionBreakpoints {args : SetInstructionBreakpoints}
    (parsed : r.parse = .ok (.setInstructionBreakpoints args)) :
    s.produced (.activity now .read) = [.response (.ok r (.breakpoints (args.breakpoints.map
        fun b => { verified := (parseAddress? b.instructionReference).isSome })))] ∧
      ∃ outbox, (s.happen (.activity now .read)).handler = { s.handler.withBreakpoints fun bs =>
        (args.breakpoints.filterMap Handler.instructionOf?).foldl Breakpoints.setInstruction
          bs.clearInstructions with outbox } := by
  apply changes_breakpoints handled parsed rfl
  intro h
  have accepted (b : InstructionBreakpoint) :
      (parseAddress? b.instructionReference).isSome = (Handler.instructionOf? b).isSome := by
    simp [Handler.instructionOf?]
  simp only [accepted]
  rfl

end

theorem setsDataBreakpoints (s : Session) : SetsDataBreakpoints s := by
  have granted {s : Session} {now : Millis} {r : Request} {args : SetDataBreakpoints}
      (handled : s.handled? (.activity now .read) = some r)
      (parsed : r.parse = .ok (.setDataBreakpoints args)) (address : String) :
      Grants args.breakpoints address
        ((s.happen (.activity now .read)).breakpoints.dataAccess? address) := by
    obtain ⟨-, outbox, after⟩ := carried_setDataBreakpoints handled parsed
    have set := s.breakpoints.dataAccess?_setAll (requested args.breakpoints) address
    rw [breakpoints, after]
    exact set ▸ grants_together args.breakpoints address
  constructor
  case granted =>
    intro now r args handled parsed address
    exact granted handled parsed address
  case unordered =>
    intro now r args handled parsed s' now' r' args' handled' parsed' same address
    exact (granted handled parsed address).unique (granted handled' parsed' address) same
  case reported =>
    intro now r args handled parsed
    exact (carried_setDataBreakpoints handled parsed).1
  case others =>
    intro now r args handled parsed
    obtain ⟨-, outbox, after⟩ := carried_setDataBreakpoints handled parsed
    obtain ⟨data, set⟩ := s.breakpoints.clearData.foldl_setData (requested args.breakpoints)
    have changed : (s.happen (.activity now .read)).breakpoints = { s.breakpoints with data } := by
      rw [breakpoints, after]
      exact set
    rw [changed]
    exact ⟨⟨rfl, rfl⟩, rfl⟩
  case rest =>
    intro now r args handled parsed
    obtain ⟨-, outbox, after⟩ := carried_setDataBreakpoints handled parsed
    exact ⟨_, outbox, after⟩

theorem setsInstructionBreakpoints (s : Session) : SetsInstructionBreakpoints s := by
  constructor
  case set =>
    intro now r args handled parsed address
    obtain ⟨-, outbox, after⟩ := carried_setInstructionBreakpoints handled parsed
    rw [breakpoints, after]
    apply Iff.trans (s.breakpoints.stopsAtInstruction_setAll _ address)
    simp only [List.mem_filterMap, Handler.instructionOf?, Option.map_eq_some_iff]
  case reported =>
    intro now r args handled parsed
    exact (carried_setInstructionBreakpoints handled parsed).1
  case others =>
    intro now r args handled parsed
    obtain ⟨-, outbox, after⟩ := carried_setInstructionBreakpoints handled parsed
    obtain ⟨instructions, set⟩ := s.breakpoints.clearInstructions.foldl_setInstruction
      (args.breakpoints.filterMap Handler.instructionOf?)
    have changed : (s.happen (.activity now .read)).breakpoints =
        { s.breakpoints with instructions } := by
      rw [breakpoints, after]
      exact set
    rw [changed]
    exact ⟨⟨rfl, rfl⟩, rfl⟩
  case rest =>
    intro now r args handled parsed
    obtain ⟨-, outbox, after⟩ := carried_setInstructionBreakpoints handled parsed
    exact ⟨_, outbox, after⟩

/-- Data breakpoints and instruction breakpoints are replaced as a whole, and nothing else is. -/
theorem replaces_breakpoints (s : Session) : SetsDataBreakpoints s ∧ SetsInstructionBreakpoints s :=
  ⟨s.setsDataBreakpoints, s.setsInstructionBreakpoints⟩

end DebugAdapter.Session
