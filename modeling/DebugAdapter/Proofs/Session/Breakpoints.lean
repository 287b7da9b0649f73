import DebugAdapter.Proofs.Control.Breakpoints
import DebugAdapter.Proofs.Program.Breakpoints
import DebugAdapter.Proofs.Session.Delivery
/-!
# The breakpoints of a file

A request to set the line breakpoints of a file replaces those that the file had, whatever they were
and however its path was spelled. The new ones stand in the order in which they were asked for, under
numbers that no breakpoint has had, and are reported as they stand. Nothing else touches line
breakpoints or hands out numbers.
-/

namespace DebugAdapter

open Protocol

namespace Program

/-! ## Replacing -/

/-- Breakpoints on some lines, not verified and numbered from `n` on. -/
def unverified (n : Nat) (lines : List Int) : List LineBreakpoint :=
  (lines.zipIdx n).map fun (line, id) => { id, line, verified := false }

namespace Breakpoints

/-- Whether a file has breakpoints on some lines besides those it had, and nothing else is new. -/
structure Extended (path : String) (lines : List Int) (bs bs' : Breakpoints) : Prop where
  underKey : ∀ key, bs'.underKey key =
    if key = Path.key path then bs.inFile path ++ unverified bs.nextId lines else bs.underKey key
  nextId : bs'.nextId = bs.nextId + lines.length
  data : bs'.data = bs.data
  instructions : bs'.instructions = bs.instructions

/-- Whether a file has breakpoints on some lines in the place of those it had, with the next numbers,
and nothing else is new. -/
structure Replaced (path : String) (lines : List Int) (bs bs' : Breakpoints) : Prop where
  file : ∀ other, Path.key other = Path.key path → bs'.inFile other = unverified bs.nextId lines
  others : ∀ other, Path.key other ≠ Path.key path → bs'.inFile other = bs.inFile other
  nextId : bs'.nextId = bs.nextId + lines.length
  data : bs'.data = bs.data
  instructions : bs'.instructions = bs.instructions

/-- Whether the line breakpoints are as before, and no number has been handed out. -/
structure SameLines (bs bs' : Breakpoints) : Prop where
  files : bs'.files = bs.files
  nextId : bs'.nextId = bs.nextId

variable {bs bs' : Breakpoints} {path : String} {lines : List Int}

theorem SameLines.refl (bs : Breakpoints) : SameLines bs bs := ⟨rfl, rfl⟩

theorem SameLines.of_eq (same : bs' = bs) : SameLines bs bs' := same ▸ .refl bs

theorem SameLines.inFile (same : SameLines bs bs') (path : String) :
    bs'.inFile path = bs.inFile path := by
  rw [Breakpoints.inFile, same.files, Breakpoints.inFile]

/-- What changes neither line breakpoints nor their numbers does not do so from one to the next. -/
theorem sameLines_foldl {α : Type} {f : Breakpoints → α → Breakpoints}
    (kept : ∀ bs a, SameLines bs (f bs a)) (as : List α) (bs : Breakpoints) :
    SameLines bs (as.foldl f bs) := by
  induction as generalizing bs with
  | nil => exact .refl bs
  | cons a as ih =>
      have later := ih (f bs a)
      exact ⟨later.files.trans (kept bs a).files, later.nextId.trans (kept bs a).nextId⟩

theorem sameLines_setInstruction (bs : Breakpoints) (address : Int) :
    SameLines bs (bs.setInstruction address) := by
  unfold setInstruction
  split
  · exact .refl bs
  · exact ⟨rfl, rfl⟩

/-- Breakpoints that are added after a file has been cleared are all that it has. -/
theorem Extended.replaced (extended : Extended path lines (bs.clearFile path) bs') :
    Replaced path lines bs bs' where
  file other same := by
    have cleared : (bs.clearFile path).inFile path = [] :=
      (bs.underKey_clearFile path (Path.key path)).trans (if_pos rfl)
    refine (extended.underKey (Path.key other)).trans ?_
    rw [if_pos same, cleared]
    rfl
  others other different := by
    refine (extended.underKey (Path.key other)).trans ?_
    rw [if_neg different, underKey_clearFile, if_neg different]
    rfl
  nextId := extended.nextId
  data := extended.data
  instructions := extended.instructions

end Breakpoints

end Program

open Program (Breakpoints LineBreakpoint unverified)
open Program.Breakpoints (Extended Replaced SameLines)

namespace Session

/-! ## Requests that set the breakpoints of a file -/

/-- The breakpoints of a session. -/
def breakpoints (s : Session) : Breakpoints := s.handler.control.breakpoints

namespace Handler

/-- Lines are set one after the other. -/
theorem setLines_extended (path : String) (lines : List Int) (bs : Breakpoints) :
    (setLines path lines bs).1 = (unverified bs.nextId lines).map lineBreakpoint ∧
      Extended path lines bs (setLines path lines bs).2 := by
  induction lines generalizing bs with
  | nil =>
      refine ⟨rfl, fun key => ?_, rfl, rfl, rfl⟩
      split
      · rename_i same
        rw [same]
        exact (List.append_nil _).symm
      · rfl
  | cons line lines ih =>
      obtain ⟨reported, extended⟩ := ih (bs.setLine path line).2
      have here := bs.underKey_setLine path (Path.key path) line
      rw [if_pos rfl] at here
      refine ⟨congrArg (lineBreakpoint (bs.setLine path line).1 :: ·) reported, fun key => ?_, ?_,
        extended.data, extended.instructions⟩
      · refine (extended.underKey key).trans ?_
        split
        · rw [Breakpoints.inFile, ← Breakpoints.underKey, here, List.append_assoc]
          rfl
        · rename_i other
          rw [bs.underKey_setLine, if_neg other]
      · exact extended.nextId.trans (Nat.succ_add_eq_add_succ bs.nextId lines.length)

/-- What a request to set the breakpoints of a file does to the handler: it changes the breakpoints,
and the response is put into the queue. -/
structure Sets (args : SetBreakpoints) (h h' : Handler) : Prop where
  replaced : ∀ path, args.source.path = some path →
    Replaced path args.requestedLines h.control.breakpoints h'.control.breakpoints
  unplaced : args.source.path = none → h'.control.breakpoints = h.control.breakpoints
  rest : ∃ bs outbox, h' = { h.withBreakpoints fun _ => bs with outbox }

theorem send_rest (h : Handler) (m : Outgoing) : ∃ outbox, h.send m = { h with outbox } := by
  unfold send
  split
  · exact ⟨h.outbox, rfl⟩
  · exact ⟨_, rfl⟩

theorem setBreakpoints_sets (h : Handler) (r : Request) (args : SetBreakpoints) :
    Sets args h (h.setBreakpoints r args) := by
  unfold setBreakpoints
  cases source : args.source.path with
  | none =>
      refine ⟨fun path same => absurd (source.symm.trans same) nofun, fun _ => ?_, ?_⟩
      · exact congrArg Control.breakpoints (h.succeed_control r _)
      · obtain ⟨outbox, sent⟩ := h.send_rest (.response (.ok r (.breakpoints [])))
        exact ⟨h.control.breakpoints, outbox, sent⟩
  | some path =>
      obtain ⟨-, extended⟩ := setLines_extended path args.requestedLines
        (h.control.breakpoints.clearFile path)
      refine ⟨fun other same => ?_, fun none_ => absurd (source.symm.trans none_) nofun, ?_⟩
      · cases source.symm.trans same
        dsimp only
        rw [succeed_control]
        exact extended.replaced
      · obtain ⟨outbox, sent⟩ := send_rest (h.withBreakpoints fun _ => (setLines path
          args.requestedLines (h.control.breakpoints.clearFile path)).2) (.response (.ok r
            (.breakpoints (setLines path args.requestedLines
              (h.control.breakpoints.clearFile path)).1)))
        exact ⟨_, outbox, sent⟩

/-- What is reported are the breakpoints that the file now has. -/
theorem produces_setBreakpoints (h : Handler) (r : Request) (args : SetBreakpoints) :
    Produces (fun h => h.setBreakpoints r args) h [.response (.ok r (.breakpoints
      (match args.source.path with
        | some _ => (unverified h.control.breakpoints.nextId args.requestedLines).map lineBreakpoint
        | none => [])))] := by
  simp only [setBreakpoints]
  cases args.source.path with
  | none =>
      exact produces_send (m := fun _ => .response (.ok r (.breakpoints []))) (fun _ => rfl)
        (fun _ => rfl) (fun _ => rfl) (fun _ => rfl)
  | some path =>
      obtain ⟨reported, -⟩ := setLines_extended path args.requestedLines
        (h.control.breakpoints.clearFile path)
      have produced : Produces (fun h => (h.withBreakpoints fun _ => (setLines path
          args.requestedLines (h.control.breakpoints.clearFile path)).2).succeed r
          (.breakpoints (setLines path args.requestedLines
            (h.control.breakpoints.clearFile path)).1)) h _ :=
        produces_send (m := fun h => .response (.ok r (.breakpoints (setLines path
          args.requestedLines (h.control.breakpoints.clearFile path)).1))) (fun _ => rfl)
          (fun _ => rfl) (fun _ => rfl) (fun _ => rfl)
      rw [reported] at produced
      exact produced

end Handler

end Session

/-! ## Numbers -/

namespace Protocol

/-- The numbers of breakpoints that a response reports. -/
def Response.numbers (r : Response) : List Int :=
  match r.body with
  | some (.breakpoints bps) => bps.filterMap (·.id)
  | _ => []

/-- The numbers of breakpoints that some messages report. -/
def numbersIn (ms : List Outgoing) : List Int := (responses ms).flatMap Response.numbers

theorem numbersIn_append (ms ms' : List Outgoing) :
    numbersIn (ms ++ ms') = numbersIn ms ++ numbersIn ms' := by
  rw [numbersIn, responses, List.filterMap_append, List.flatMap_append]
  rfl

theorem numbers_unnumbered {α : Type} (r : Request) (as : List α) {f : α → Breakpoint}
    (unnumbered : ∀ a, (f a).id = none) :
    numbersIn [.response (.ok r (.breakpoints (as.map f)))] = [] := by
  have silent : (as.map f).filterMap (·.id) = [] := by
    rw [List.filterMap_map]
    exact List.filterMap_eq_nil_iff.mpr fun a _ => unnumbered a
  exact (List.append_nil _).trans silent

end Protocol

namespace Session

namespace Handler

/-- Whether the line breakpoints are as before, and what has been put into the queue reports no
numbers. -/
structure Apart (h h' : Handler) : Prop where
  lines : SameLines h.control.breakpoints h'.control.breakpoints
  outbox : ∃ ms, h'.outbox = h.outbox ++ ms ∧ numbersIn ms = []

variable {h h' : Handler}

theorem apart_of_same (lines : SameLines h.control.breakpoints h'.control.breakpoints)
    (outbox : h'.outbox = h.outbox) : Apart h h' :=
  ⟨lines, [], outbox.trans (List.append_nil _).symm, rfl⟩

theorem Apart.send (apart : Apart h h') {m : Outgoing} (silent : numbersIn [m] = []) :
    Apart h (h'.send m) := by
  obtain ⟨ms, outbox, silent'⟩ := apart.outbox
  refine ⟨by rw [send_control]; exact apart.lines, ?_⟩
  rw [(h'.send_outbox m).1, outbox]
  split
  · exact ⟨ms, List.append_nil _, silent'⟩
  · refine ⟨ms ++ [m], List.append_assoc .., ?_⟩
    rw [numbersIn_append, silent', silent]
    rfl

theorem apart_send {m : Outgoing} (lines : SameLines h.control.breakpoints h'.control.breakpoints)
    (outbox : h'.outbox = h.outbox) (silent : numbersIn [m] = []) : Apart h (h'.send m) :=
  (apart_of_same lines outbox).send silent

/-- Other requests leave line breakpoints alone. -/
theorem apart_carryOut (h : Handler) (now : Millis) (r : Request) {command : Command}
    (other : ∀ args, command ≠ .setBreakpoints args) : Apart h (h.carryOut now r command) := by
  cases command with
  | setBreakpoints args => exact absurd rfl (other args)
  | setDataBreakpoints args =>
      refine apart_send ?_ (by rfl) (numbers_unnumbered r args.breakpoints fun _ => by rfl)
      obtain ⟨files, nextId⟩ := Breakpoints.sameLines_foldl
        (f := fun bs (b : DataBreakpoint) => bs.setData b.dataId (accessOf b.accessType))
        (fun bs b => ⟨rfl, rfl⟩) args.breakpoints h.control.breakpoints.clearData
      exact ⟨files, nextId⟩
  | setInstructionBreakpoints args =>
      refine apart_send ?_ (by rfl) (numbers_unnumbered r args.breakpoints fun _ => by rfl)
      obtain ⟨files, nextId⟩ := Breakpoints.sameLines_foldl Breakpoints.sameLines_setInstruction
        (args.breakpoints.filterMap instructionOf?) h.control.breakpoints.clearInstructions
      exact ⟨files, nextId⟩
  | setFunctionBreakpoints args =>
      exact apart_send (.of_eq (by rfl)) (by rfl)
        (numbers_unnumbered r args.breakpoints fun _ => by rfl)
  | launch args | attach args => exact apart_of_same (.of_eq rfl) rfl
  | handshake args => exact (apart_send (.of_eq (by rfl)) (by rfl) (by rfl)).send (by rfl)
  | toggleFormatting =>
      rw [carryOut, toggleFormatting]
      dsimp only
      split
      · exact (apart_send (.of_eq (by rfl)) (by rfl) (by rfl)).send (by rfl)
      · exact apart_send (.of_eq (by rfl)) (by rfl) (by rfl)
  | disconnect args =>
      refine Apart.send ?_ (by rfl)
      split
      · exact apart_of_same (.of_eq h.control.terminate_breakpoints) rfl
      · exact apart_of_same (.refl _) rfl
  | terminate args => exact apart_send (.of_eq h.control.terminate_breakpoints) (by rfl) (by rfl)
  | evaluate args => exact apart_send (.of_eq (h.control.evaluate_breakpoints ..)) (by rfl) (by rfl)
  | dataBreakpointInfo args =>
      refine apart_send (.of_eq (by rfl)) (by rfl) ?_
      split
      · split <;> rfl
      · rfl
  | configurationDone | setExceptionBreakpoints | breakpointLocations | exceptionInfo | threads
  | stackTrace | scopes | «variables» | continue_ | next | setExpression | completions | readMemory
  | cancel | unknown =>
      exact apart_send (.of_eq (by rfl)) (by rfl) (by rfl)

theorem apart_handle (h : Handler) (now : Millis) (r : Request)
    (other : ∀ args, r.parse ≠ .ok (.setBreakpoints args)) : Apart h (h.handle now r).1 := by
  unfold handle
  cases parsed : r.parse with
  | error e => exact apart_send (.of_eq (by rfl)) (by rfl) (by rfl)
  | ok command => exact h.apart_carryOut now r fun args same => other args (same ▸ parsed)

/-- What the handler does by itself leaves them alone, whatever execution control does. -/
theorem Acts.apart {a : Activity} (acts : h.Acts a h') (other : ∀ a', a ≠ .control a') :
    Apart h h' := by
  cases acts with
  | control c a => exact absurd rfl (other a)
  | @notice n => cases n <;> exact apart_send (.of_eq (by rfl)) (by rfl) (by rfl)
  | @resume i p =>
      unfold Handler.resume
      split
      · exact apart_send (.of_eq (by rfl)) (by rfl) (by rfl)
      · split
        · exact apart_send (.of_eq (by rfl)) (by rfl) (by rfl)
        · exact apart_of_same (.of_eq rfl) rfl
  | @complete i p =>
      refine apart_send (.of_eq (by rfl)) (by rfl) ?_
      unfold launchResponse
      split <;> rfl
  | discard => exact apart_of_same (.of_eq h.control.terminate_breakpoints) rfl

end Handler

/-! ## Runs -/

variable {s : Session}

/-- The numbers that are reported when something happens. -/
def numbersGiven (s : Session) (h : Happening) : List Int := numbersIn (s.produced h)

theorem apart_happen {h : Happening} (otherwise : ∀ now, h ≠ .activity now .write)
    (other : ∀ r args, s.handled? h = some r → r.parse ≠ .ok (.setBreakpoints args)) :
    Handler.Apart s.handler (s.happen h).handler := by
  have unchanged : Handler.Apart s.handler s.handler := Handler.apart_of_same (.refl _) rfl
  cases h with
  | editor incoming outgoing => exact unchanged
  | interpreter i line complaints fate => exact Handler.apart_of_same (.of_eq rfl) rfl
  | activity now a =>
      cases a with
      | read =>
          have concluded (h : Handler) (apart : Handler.Apart s.handler h) :
              Handler.Apart s.handler { h.withControl (·.terminate) with closed := true } := by
            refine ⟨?_, apart.outbox⟩
            obtain ⟨files, nextId⟩ := apart.lines
            have same := h.control.terminate_breakpoints
            exact ⟨(congrArg Breakpoints.files same).trans files,
              (congrArg Breakpoints.nextId same).trans nextId⟩
          obtain ⟨buffer, incoming, ⟨r, handled, same⟩ | ⟨-, same | same⟩⟩ := s.read_cases now
          · have apart := s.handler.apart_handle now r fun args => other r args handled
            rw [same, handle]
            dsimp only
            split
            · exact concluded _ apart
            · exact apart
          · rw [same]
            exact unchanged
          · rw [same]
            exact concluded _ unchanged
      | write => exact absurd rfl (otherwise now)
      | control a =>
          rw [happen, perform?]
          cases performed : s.handler.control.perform? now a with
          | none => exact unchanged
          | some c =>
              exact Handler.apart_of_same (.of_eq (Control.perform?_breakpoints performed)) rfl
      | notice | resume | complete | discard =>
          rw [happen]
          cases performed : s.perform? now _ with
          | none => exact unchanged
          | some s' =>
              obtain ⟨handler, rfl, acts⟩ := perform?_acts performed (by simp) (by simp)
              exact acts.apart (by simp)

/-- Nothing but a request to set the breakpoints of a file touches line breakpoints or hands out
numbers. -/
theorem lines_happen {h : Happening}
    (other : ∀ r args, s.handled? h = some r → r.parse ≠ .ok (.setBreakpoints args)) :
    SameLines s.breakpoints (s.happen h).breakpoints ∧ s.numbersGiven h = [] := by
  by_cases write : ∃ now, h = .activity now .write
  · obtain ⟨now, rfl⟩ := write
    refine ⟨?_, ?_⟩
    · have writes := s.writes_happen now
      generalize s.happen (.activity now .write) = s' at writes
      cases writes <;> exact .of_eq rfl
    · have silent := (s.withClosed false).drop_outbox_write now
      exact congrArg numbersIn silent
  · have otherwise (now : Millis) (same : h = .activity now .write) : False := write ⟨now, same⟩
    refine ⟨(apart_happen otherwise other).lines, ?_⟩
    obtain ⟨ms, outbox, silent⟩ := (apart_happen (s := s.withClosed false) otherwise other).outbox
    rw [numbersGiven, produced, outbox]
    exact (congrArg numbersIn List.drop_left).trans silent

/-- What a request to set the breakpoints of a file does, in any session. -/
structure SetsBreakpoints (s : Session) : Prop where
  /-- The breakpoints of the file are those that are asked for, in order, with the next numbers. All
  others are as before. -/
  replaced : ∀ now r args path, s.handled? (.activity now .read) = some r →
    r.parse = .ok (.setBreakpoints args) → args.source.path = some path →
      Replaced path args.requestedLines s.breakpoints (s.happen (.activity now .read)).breakpoints
  /-- They are reported as they stand. -/
  reported : ∀ now r args path, s.handled? (.activity now .read) = some r →
    r.parse = .ok (.setBreakpoints args) → args.source.path = some path →
      s.produced (.activity now .read) = [.response (.ok r (.breakpoints
        (((s.happen (.activity now .read)).breakpoints.inFile path).map Handler.lineBreakpoint)))]
  /-- Without a file nothing is set and nothing is reported. -/
  unplaced : ∀ now r args, s.handled? (.activity now .read) = some r →
    r.parse = .ok (.setBreakpoints args) → args.source.path = none →
      (s.happen (.activity now .read)).breakpoints = s.breakpoints ∧
        s.produced (.activity now .read) = [.response (.ok r (.breakpoints []))]
  /-- Nothing else changes but for the queue. -/
  rest : ∀ now r args, s.handled? (.activity now .read) = some r →
    r.parse = .ok (.setBreakpoints args) → ∃ bs outbox,
      (s.happen (.activity now .read)).handler = { s.handler.withBreakpoints fun _ => bs with outbox }

/-- A request that does not end the session does no more than the handler does. -/
theorem handler_read {now : Millis} {r : Request} {command : Command}
    (handled : s.handled? (.activity now .read) = some r) (parsed : r.parse = .ok command)
    (goesOn : Handler.isFarewell command = false) :
    (s.happen (.activity now .read)).handler = s.handler.carryOut now r command := by
  obtain ⟨buffer, incoming, ⟨r', some_, same⟩ | ⟨none_, -⟩⟩ := s.read_cases now
  · cases handled.symm.trans some_
    simp only [same, handle, Handler.handle, parsed, goesOn, Bool.false_eq_true, if_false]
  · cases handled.symm.trans none_

theorem produced_setBreakpoints {now : Millis} {r : Request} {args : SetBreakpoints}
    (handled : s.handled? (.activity now .read) = some r)
    (parsed : r.parse = .ok (.setBreakpoints args)) :
    s.produced (.activity now .read) = [.response (.ok r (.breakpoints
      (match args.source.path with
        | some _ => (unverified s.breakpoints.nextId args.requestedLines).map Handler.lineBreakpoint
        | none => [])))] :=
  produced_carryOut handled parsed (s.handler.produces_setBreakpoints r args)

theorem setsBreakpoints (s : Session) : SetsBreakpoints s := by
  have sets {now : Millis} {r : Request} {args : SetBreakpoints}
      (handled : s.handled? (.activity now .read) = some r)
      (parsed : r.parse = .ok (.setBreakpoints args)) :
      Handler.Sets args s.handler (s.happen (.activity now .read)).handler := by
    rw [handler_read handled parsed rfl]
    exact s.handler.setBreakpoints_sets r args
  refine ⟨fun now r args path handled parsed source => (sets handled parsed).replaced path source,
    fun now r args path handled parsed source => ?_, fun now r args handled parsed source => ?_,
    fun now r args handled parsed => (sets handled parsed).rest⟩
  · have placed : (s.happen (.activity now .read)).breakpoints.inFile path = _ :=
      ((sets handled parsed).replaced path source).file path rfl
    rw [produced_setBreakpoints handled parsed, source, placed]
    rfl
  · rw [produced_setBreakpoints handled parsed, source]
    exact ⟨(sets handled parsed).unplaced source, rfl⟩

/-- The numbers that have been handed out in a run. -/
def givenBy (t : Trace Session (Session × Happening)) : List Int :=
  t.entries.flatMap fun (s, h) => s.numbersGiven h

/-- The numbers 1, 2, 3 and so on have been handed out, in this order, `n` of them; those of the
breakpoints that there are are among them. -/
structure Numbered (n : Nat) (t : Trace Session (Session × Happening)) : Prop where
  given : givenBy t = (List.range' 1 n).map (↑)
  nextId : t.state.breakpoints.nextId = n + 1
  standing : ∀ path, ∀ b ∈ t.state.breakpoints.inFile path, (b.id : Int) ∈ givenBy t

/-- The numbers of breakpoints that are set follow one another. -/
theorem ids_unverified (n : Nat) (lines : List Int) :
    (unverified n lines).map (·.id) = List.range' n lines.length := by
  rw [unverified, List.map_map]
  exact List.zipIdx_map_snd n lines

theorem numbersIn_reported (r : Request) (bps : List LineBreakpoint) :
    numbersIn [.response (.ok r (.breakpoints (bps.map Handler.lineBreakpoint)))] =
      bps.map fun b => (b.id : Int) := by
  have numbers : numbersIn [.response (.ok r (.breakpoints (bps.map Handler.lineBreakpoint)))] =
      (bps.map Handler.lineBreakpoint).filterMap (·.id) := List.append_nil _
  rw [numbers, List.filterMap_map]
  exact congrFun List.filterMap_eq_map bps

/-- A happening either sets the breakpoints of a file, or leaves line breakpoints as they are. -/
theorem sets_or_same (s : Session) (h : Happening) :
    (∃ path lines, Replaced path lines s.breakpoints (s.happen h).breakpoints ∧
      s.numbersGiven h = ((s.happen h).breakpoints.inFile path).map fun b => (b.id : Int)) ∨
      SameLines s.breakpoints (s.happen h).breakpoints ∧ s.numbersGiven h = [] := by
  by_cases setting : ∃ r args, s.handled? h = some r ∧ r.parse = .ok (.setBreakpoints args)
  · obtain ⟨r, args, handled, parsed⟩ := setting
    obtain ⟨now, rfl⟩ := handled?_read handled
    have sets := s.setsBreakpoints
    cases source : args.source.path with
    | some path =>
        refine .inl ⟨path, _, sets.replaced now r args path handled parsed source, ?_⟩
        rw [numbersGiven, sets.reported now r args path handled parsed source, numbersIn_reported]
    | none =>
        obtain ⟨same, reported⟩ := sets.unplaced now r args handled parsed source
        refine .inr ⟨.of_eq same, ?_⟩
        rw [numbersGiven, reported]
        rfl
  · exact .inr (lines_happen fun r args handled parsed => setting ⟨r, args, handled, parsed⟩)

theorem numbered_next {n : Nat} {t : Trace Session (Session × Happening)} (numbered : Numbered n t)
    (h : Happening) : ∃ m, Numbered m (t.next step h) := by
  have more : givenBy (t.next step h) = givenBy t ++ t.state.numbersGiven h :=
    Trace.flatMap_next _ _ t h
  have state : (t.next step h).state = t.state.happen h := rfl
  obtain ⟨path, lines, replaced, given⟩ | ⟨same, silent⟩ := t.state.sets_or_same h
  · -- The file now has the next numbers, and these are the ones that are given.
    have placed := replaced.file path rfl
    rw [numbered.nextId] at placed
    have next : givenBy (t.next step h) =
        givenBy t ++ (List.range' (n + 1) lines.length).map (↑) := by
      rw [more, given, placed, ← ids_unverified, List.map_map]
      rfl
    refine ⟨n + lines.length, ?_, ?_, fun other b member => ?_⟩
    · rw [next, numbered.given, ← List.map_append, Nat.add_comm n 1, List.range'_append_1]
    · rw [state, replaced.nextId, numbered.nextId]
      omega
    · rw [more]
      rw [state] at member
      by_cases here : Path.key other = Path.key path
      · rw [replaced.file other here, ← replaced.file path rfl] at member
        rw [given]
        exact List.mem_append_right _ (List.mem_map_of_mem member)
      · rw [replaced.others other here] at member
        exact List.mem_append_left _ (numbered.standing other b member)
  · refine ⟨n, ?_, same.nextId.trans numbered.nextId, fun path b member => ?_⟩
    · rw [more, silent, List.append_nil, numbered.given]
    · rw [more, silent, List.append_nil]
      rw [state, same.inFile] at member
      exact numbered.standing path b member

/-- What a run of a session hands out numbers for. -/
structure Fresh (t : Trace Session (Session × Happening)) : Prop where
  /-- The numbers 1, 2, 3 and so on have been handed out, in this order; those of the breakpoints
  that there are are among them. -/
  numbered : ∃ n, Numbered n t
  /-- Breakpoints that are set next have larger ones. -/
  larger : ∀ now r args path, t.state.handled? (.activity now .read) = some r →
    r.parse = .ok (.setBreakpoints args) → args.source.path = some path →
      ∀ b ∈ (t.state.happen (.activity now .read)).breakpoints.inFile path, ∀ n ∈ givenBy t, n < b.id

theorem fresh_of_numbered {n : Nat} {t : Trace Session (Session × Happening)}
    (numbered : Numbered n t) : Fresh t := by
  refine ⟨⟨n, numbered⟩, fun now r args path handled parsed source b member k given => ?_⟩
  have replaced := t.state.setsBreakpoints.replaced now r args path handled parsed source
  have id := List.mem_map_of_mem (f := (·.id)) member
  rw [replaced.file path rfl, ids_unverified, numbered.nextId] at id
  rw [numbered.given] at given
  obtain ⟨k, inside, rfl⟩ := List.mem_map.mp given
  have := List.mem_range'_1.mp id
  have := List.mem_range'_1.mp inside
  omega

end Session

end DebugAdapter
