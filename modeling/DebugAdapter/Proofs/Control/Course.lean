import DebugAdapter.Control.Drive
import DebugAdapter.Proofs.Monitor.Rounds
/-!
# The course of a program of lines

Running a program of one instruction for each of some lines is a sequence of decisions, one after
each step. Where breakpoints are being left depends only on the instruction before the present one,
so the stage of the run at a step is determined by the step, whatever stops there were before it.
-/

namespace DebugAdapter.Interpreter

open Text (IntegerRange)

namespace ScriptedProgram

/-! ## Programs of lines -/

variable (file : String) (lines : List Int)

theorem length_ofLines : (ofLines file lines).steps.length = lines.length + 3 := by
  simp [ofLines]

theorem stepAfter_setUp :
    (ofLines file lines).stepAfter 0 = .inState .setGlobalVariables (-1) := by
  simp [stepAfter, ofLines]

variable {lines}

theorem stepAfter_line {i : Nat} {line : Int} (here : lines[i]? = some line) :
    (ofLines file lines).stepAfter (i + 1) = stepAt file i line := by
  obtain ⟨inside, found⟩ := List.getElem?_eq_some_iff.mp here
  have early : i < lines.zipIdx.length := by simpa using inside
  rw [stepAfter, length_ofLines, show min (i + 1) (lines.length + 3 - 1) = i + 1 by omega]
  simp [ofLines, List.getElem?_append_left, inside, found]

variable (lines)

theorem stepAfter_tearDown :
    (ofLines file lines).stepAfter (lines.length + 1) = .inState .disposeGlobalVariables (-1) := by
  rw [stepAfter, length_ofLines, Nat.min_eq_left (by omega)]
  simp [ofLines]

theorem stepAfter_end {n : Nat} (late : lines.length + 2 ≤ n) :
    (ofLines file lines).stepAfter n = .inState .codeExecuted (-1) := by
  rw [stepAfter, length_ofLines, Nat.min_eq_right (by omega)]
  simp [ofLines]

/-- The program ends after its tear-down. -/
theorem isTerminal_stepAfter (n : Nat) :
    ((ofLines file lines).stepAfter n).state.isTerminal = true ↔ lines.length + 2 ≤ n := by
  refine ⟨fun terminal => ?_, fun late => by rw [stepAfter_end file lines late]; rfl⟩
  refine Nat.le_of_not_lt fun early => ?_
  obtain rfl | ⟨i, rfl⟩ : n = 0 ∨ ∃ i, n = i + 1 := by
    cases n
    · exact .inl rfl
    · exact .inr ⟨_, rfl⟩
  · rw [stepAfter_setUp] at terminal
    cases terminal
  · cases here : lines[i]? with
    | some line =>
        rw [stepAfter_line file here] at terminal
        cases terminal
    | none =>
        have last : i = lines.length := by
          have outside := List.getElem?_eq_none_iff.mp here
          omega
        rw [last, stepAfter_tearDown] at terminal
        cases terminal

/-- Each instruction has its line. -/
theorem debugInfoAt?_ofLines {i : Nat} {line : Int} (here : lines[i]? = some line) :
    debugInfoAt? (ofLines file lines).debugInfo i = some (infoAt i line) := by
  have listed : infoAt i line ∈ (ofLines file lines).debugInfo :=
    List.mem_map.mpr ⟨(line, i), List.mem_zipIdx_iff_getElem?.mpr here, rfl⟩
  have holds : (infoAt i line).holds i = true := by simp [DebugInfo.holds, infoAt]
  cases found : debugInfoAt? (ofLines file lines).debugInfo i with
  | none =>
      have other := List.find?_eq_none.mp found _ (List.mem_reverse.mpr listed)
      exact absurd holds other
  | some info =>
      obtain ⟨⟨line', j⟩, member, rfl⟩ :=
        List.mem_map.mp (List.mem_reverse.mp (List.mem_of_find?_eq_some found))
      have same := List.find?_some found
      simp [DebugInfo.holds, infoAt] at same
      obtain rfl : j = i := by omega
      have there := List.mem_zipIdx_iff_getElem?.mp member
      rw [here, Option.some_inj] at there
      rw [there]

theorem fits_ofLines (short : IntegerRange.signed64.holds lines.length = true)
    (ranged : ∀ line ∈ lines, IntegerRange.signed64.holds line = true) :
    (ofLines file lines).Fits := by
  have zero : IntegerRange.signed64.holds 0 = true := by decide
  have offset {i : Nat} {line : Int} (member : (line, i) ∈ lines.zipIdx) :
      IntegerRange.signed64.holds i = true := by
    have inside := (List.getElem?_eq_some_iff.mp (List.mem_zipIdx_iff_getElem?.mp member)).1
    simp [IntegerRange.holds, IntegerRange.signed64] at short ⊢
    omega
  have inState (state : State) {cp : Int} (fits : IntegerRange.signed64.holds cp = true) :
      (ScriptedStep.inState state cp).Fits := ⟨zero, fits, zero, by simp [ScriptedStep.inState]⟩
  refine ⟨by simp [ofLines], ?_, ?_⟩
  · simp only [ofLines, List.mem_append, List.mem_cons, List.mem_map, List.not_mem_nil, or_false]
    rintro step ((rfl | ⟨⟨line, i⟩, member, rfl⟩) | rfl | rfl)
    · exact inState _ (by decide)
    · exact ⟨zero, offset member, zero, by simp [stepAt, ScriptedStep.inState]⟩
    · exact inState _ (by decide)
    · exact inState _ (by decide)
  · intro info listed
    obtain ⟨⟨line, i⟩, member, rfl⟩ := List.mem_map.mp listed
    have fits := ranged line (List.mem_of_getElem? (List.mem_zipIdx_iff_getElem?.mp member))
    exact ⟨offset member, offset member, fits, zero, fits, zero, zero, zero⟩

end ScriptedProgram

end DebugAdapter.Interpreter

namespace DebugAdapter.Control

open Interpreter (ScriptedProgram)
open Monitor (Exhibits)
open Program (Breakpoints)

/-! ## Visits -/

/-- Whether the program comes to a marked line at an instruction: not from the same line, and not to
line 0. -/
def isVisit (marked lines : List Int) (i : Nat) : Bool :=
  match lines[i]? with
  | some line => line ≠ 0 && marked.contains line && (i = 0 || lines[i - 1]? ≠ some line)
  | none => false

/-- The instructions at which a program comes to a marked line. -/
def visits (marked lines : List Int) : List Nat := (List.range lines.length).filter (isVisit marked lines)

/-- The lines of all files that have a breakpoint. -/
def markedLines (bs : Breakpoints) : List Int := bs.lines.map (·.2.line)

theorem stopsAtLine_some (bs : Breakpoints) (line : Int) :
    bs.stopsAtLine (some line) = (line ≠ 0 && (markedLines bs).contains line) := by
  rw [Bool.eq_iff_iff, Breakpoints.stopsAtLine_some_iff, markedLines, Bool.and_eq_true,
    decide_eq_true_eq, List.contains_iff_mem, List.mem_map]

variable {bs : Breakpoints} {lines : List Int} {i : Nat} {line : Int}

theorem isVisit_zero (here : lines[0]? = some line) :
    isVisit (markedLines bs) lines 0 = bs.stopsAtLine (some line) := by
  simp [isVisit, here, stopsAtLine_some]

theorem isVisit_succ {line' : Int} (before : lines[i]? = some line')
    (here : lines[i + 1]? = some line) :
    isVisit (markedLines bs) lines (i + 1) = (bs.stopsAtLine (some line) && line' ≠ line) := by
  simp [isVisit, here, before, stopsAtLine_some]

theorem isVisit_outside (outside : lines.length ≤ i) (marked : List Int) :
    isVisit marked lines i = false := by
  simp [isVisit, List.getElem?_eq_none outside]

/-! ## Decisions -/

/-- What is remembered while the program runs. -/
def heedful : Memory := { debug := true }

/-- The line whose breakpoints do not count after an instruction: its own, if it has one. -/
def passed (bs : Breakpoints) (line : Int) : Option Int :=
  if bs.stopsAtLine (some line) then some line else none

/-- How far a run has come when `k` instructions have been executed. -/
inductive OnWay (bs : Breakpoints) (lines : List Int) : Nat → Stage → Prop where
  | entering : OnWay bs lines 1 (.leading .run)
  | crossing {i : Nat} {line : Int} (before : lines[i]? = some line) :
      OnWay bs lines (i + 2) (.running (passed bs line) none)
  | leaving (some_ : lines ≠ []) : OnWay bs lines (lines.length + 2) .trailing
  /-- Without instructions of its own the program is set up and torn down in one go. -/
  | skipping (none_ : lines = []) : OnWay bs lines 2 (.leading .run)

/-- A decision to go on after `k` instructions. -/
inductive Onward (bs : Breakpoints) (lines : List Int) (k : Nat) : Decision → Prop where
  | execute {stage : Stage} (early : k < lines.length + 2) (onWay : OnWay bs lines (k + 1) stage) :
      Onward bs lines k { memory := heedful, notices := [], next := .execute stage }

/-- What is remembered of a stop. -/
def stoppedAt (line : Int) (i : Nat) : Memory :=
  { heedful with resumeFrom := some { line := some line, codePointer := i } }

/-- What is decided when `k` instructions have been executed. -/
inductive Verdict (bs : Breakpoints) (lines : List Int) (k : Nat) : Decision → Prop where
  | pass {decision : Decision} (onward : Onward bs lines k decision)
      (unmarked : isVisit (markedLines bs) lines (k - 1) = false) : Verdict bs lines k decision
  | stop {i : Nat} {line : Int} (here : lines[i]? = some line) (arrived : k = i + 1)
      (marked : isVisit (markedLines bs) lines i = true) :
      Verdict bs lines k
        { memory := stoppedAt line i, notices := [.stopped .breakpoint], next := .finished }
  | finish (last : k = lines.length + 2) :
      Verdict bs lines k { memory := heedful, notices := [], next := .finished }

/-- Whether a view shows the step of a program of lines, and nothing but lines has breakpoints. -/
structure Sees (file : String) (bs : Breakpoints) (lines : List Int) (k : Nat) (v : View) : Prop where
  exhibits : Exhibits ((ScriptedProgram.ofLines file lines).stepAfter k) v.snapshot
  known : v.snapshot.debugInfo = (ScriptedProgram.ofLines file lines).debugInfo
  breakpoints : v.breakpoints = bs
  plain : bs.instructions = []

/-- Once the program has been executed the run ends, whatever else is shown. -/
theorem after_executed {v : View} (executed : v.snapshot.state = .codeExecuted) {k : Nat}
    {stage : Stage} (onWay : OnWay bs lines k stage) :
    v.after heedful true stage = { memory := heedful, notices := [], next := .finished } := by
  cases onWay <;>
    simp [View.after, View.lead, View.begin, View.run, View.trail, heedful, executed,
      Interpreter.State.isBootstrap, Interpreter.State.isRunningCode]

namespace Sees

variable {file : String} {k : Nat} {v : View}

/-- At an instruction the run stops, or goes on to the next one. -/
theorem run (sees : Sees file bs lines (i + 1) v) (able : v.able = true)
    (here : lines[i]? = some line) (leaving skipped : Option Int) :
    v.run heedful leaving skipped =
      if leaving ≠ some line ∧ bs.stopsAtLine (some line) = true then
        { memory := stoppedAt line i, notices := [.stopped .breakpoint], next := .finished }
      else
        { memory := heedful
          notices := []
          next := .execute (.running (if leaving = some line then some line else none) none) } := by
  obtain ⟨⟨state, codePointer, -, -, -⟩, known, breakpoints, plain⟩ := sees
  rw [ScriptedProgram.stepAfter_line file here] at state codePointer
  replace state : v.snapshot.state = .callUpdate := state
  replace codePointer : v.snapshot.codePointer = i := codePointer
  have current : v.snapshot.currentLine? = some line := by
    rw [Program.Snapshot.currentLine?, known, codePointer,
      ScriptedProgram.debugInfoAt?_ofLines file lines here]
    rfl
  have location : v.snapshot.location = { line := some line, codePointer := i } := by
    rw [Program.Snapshot.location, current, codePointer]
  have stays : v.trail = .finished := by simp [View.trail, state, Interpreter.State.isBootstrap]
  have unmarked : bs.stopsAtInstruction i = false := by simp [Breakpoints.stopsAtInstruction, plain]
  simp only [View.run, state, Interpreter.State.isRunningCode, if_true, View.stopReason?, location,
    View.stillLeaving, current, breakpoints, stoppedAt, heedful, stays, unmarked, able]
  by_cases same : leaving = some line
  · simp [same]
  · cases marked : bs.stopsAtLine (some line) <;> simp [same, Ne.symm same]

/-- The tear-down is reached. -/
theorem tearDown (sees : Sees file bs lines (lines.length + 1) v) (able : v.able = true) :
    v.snapshot.state = .disposeGlobalVariables ∧ v.trail = .execute .trailing := by
  have state := sees.exhibits.state
  rw [ScriptedProgram.stepAfter_tearDown] at state
  replace state : v.snapshot.state = .disposeGlobalVariables := state
  exact ⟨state, by simp [View.trail, state, able, Interpreter.State.isBootstrap]⟩

/-- A run begins with the set-up. -/
theorem lead (sees : Sees file bs lines 0 v) (able : v.able = true) :
    Onward bs lines 0 (v.lead heedful .run) := by
  have state := sees.exhibits.state
  rw [ScriptedProgram.stepAfter_setUp] at state
  replace state : v.snapshot.state = .setGlobalVariables := state
  simp only [View.lead, state, Interpreter.State.isBootstrap, able, Bool.and_self, if_true]
  exact .execute (Nat.succ_pos _) .entering

/-- A run goes on from where it has stopped. -/
theorem resume (sees : Sees file bs lines (i + 1) v) (able : v.able = true)
    (here : lines[i]? = some line) (marked : isVisit (markedLines bs) lines i = true) :
    Onward bs lines (i + 1) (v.lead (stoppedAt line i) .run) := by
  have state := sees.exhibits.state
  rw [ScriptedProgram.stepAfter_line file here] at state
  replace state : v.snapshot.state = .callUpdate := state
  have stops : bs.stopsAtLine (some line) = true := by
    simp only [isVisit, here, Bool.and_eq_true] at marked
    rw [stopsAtLine_some, Bool.and_eq_true]
    exact marked.1
  have inside := (List.getElem?_eq_some_iff.mp here).1
  have went := sees.run able here (some line) (some i)
  simp only [ne_eq, not_true_eq_false, false_and, if_false, if_true] at went
  simp only [View.lead, state, Interpreter.State.isBootstrap, Bool.false_and, Bool.false_eq_true,
    if_false, View.begin, stoppedAt, Option.bind_some, Option.map_some]
  refine went.symm ▸ .execute (by omega) ?_
  have onWay : OnWay bs lines (i + 2) (.running (passed bs line) none) := .crossing here
  rwa [passed, if_pos stops] at onWay

/-- After the first instruction of a program, and after each that follows. -/
theorem decide_line (sees : Sees file bs lines (i + 1) v) (able : v.able = true)
    (here : lines[i]? = some line) {leaving : Option Int} (skipped : Option Int)
    (visit : isVisit (markedLines bs) lines i =
      (bs.stopsAtLine (some line) && leaving ≠ some line))
    (passing : leaving = some line → bs.stopsAtLine (some line) = true) :
    Verdict bs lines (i + 1) (v.run heedful leaving skipped) := by
  have inside := (List.getElem?_eq_some_iff.mp here).1
  rw [sees.run able here]
  by_cases stops : leaving ≠ some line ∧ bs.stopsAtLine (some line) = true
  · rw [if_pos stops]
    exact .stop here rfl (by simp [visit, stops])
  · rw [if_neg stops]
    refine .pass (.execute (by omega) ?_) ?_
    · have onWay : OnWay bs lines (i + 2) (.running (passed bs line) none) := .crossing here
      have same : passed bs line = if leaving = some line then some line else none := by
        by_cases stays : leaving = some line
        · rw [passed, if_pos (passing stays), if_pos stays]
        · rw [passed, if_neg fun marked => stops ⟨stays, marked⟩, if_neg stays]
      rwa [same] at onWay
    · rw [Nat.add_sub_cancel, visit]
      simp only [Bool.and_eq_false_imp, decide_eq_false_iff_not, not_not]
      intro marked
      by_contra other
      exact stops ⟨other, marked⟩

/-- The stage of a run goes on. -/
theorem after (sees : Sees file bs lines k v) (able : k < lines.length + 2 → v.able = true)
    {stage : Stage} (onWay : OnWay bs lines k stage) :
    Verdict bs lines k (v.after heedful true stage) := by
  have ended (last : k = lines.length + 2) : Verdict bs lines k (v.after heedful true stage) := by
    have state := sees.exhibits.state
    rw [last, ScriptedProgram.stepAfter_end file lines (Nat.le_refl _)] at state
    rw [after_executed state onWay]
    exact .finish last
  cases onWay with
  | leaving some_ => exact ended rfl
  | skipping none_ => exact ended (by rw [none_, List.length_nil])
  | entering =>
      replace able := able (by omega)
      cases here : lines[0]? with
      | some line =>
          have state := sees.exhibits.state
          rw [ScriptedProgram.stepAfter_line file here] at state
          replace state : v.snapshot.state = .callUpdate := state
          simp only [View.after, View.lead, state, Interpreter.State.isBootstrap, Bool.false_and,
            Bool.false_eq_true, if_false, if_true]
          change Verdict bs lines 1 (v.run heedful none none)
          refine sees.decide_line able here none ?_ (by simp)
          simp [isVisit_zero here]
      | none =>
          obtain rfl : lines = [] := by simpa using here
          obtain ⟨state, -⟩ := sees.tearDown able
          simp only [View.after, View.lead, state, Interpreter.State.isBootstrap, able,
            Bool.and_self, if_true]
          exact .pass (.execute (by omega) (.skipping rfl)) (isVisit_outside (by simp) _)
  | @crossing i line before =>
      have inside := (List.getElem?_eq_some_iff.mp before).1
      replace able := able (by omega)
      simp only [View.after, if_true]
      cases here : lines[i + 1]? with
      | some line' =>
          refine sees.decide_line able here none ?_ ?_
          · rw [isVisit_succ before here]
            by_cases same : line = line'
            · subst same
              cases stops : bs.stopsAtLine (some line) <;> simp [passed, stops]
            · by_cases stops : bs.stopsAtLine (some line) = true <;> simp [passed, stops, same]
          · intro same
            by_cases stops : bs.stopsAtLine (some line) = true
            · rw [passed, if_pos stops, Option.some_inj] at same
              exact same ▸ stops
            · rw [passed, if_neg stops] at same
              cases same
      | none =>
          have last : i + 1 = lines.length := by
            have outside := List.getElem?_eq_none_iff.mp here
            omega
          rw [show i + 2 = lines.length + 1 by omega] at sees ⊢
          obtain ⟨state, trail⟩ := sees.tearDown able
          simp only [View.run, state, Interpreter.State.isRunningCode, Bool.false_eq_true, if_false,
            trail]
          refine .pass (.execute (by omega) (.leaving ?_)) (isVisit_outside (by omega) _)
          exact List.ne_nil_of_length_pos (by omega)

end Sees

end DebugAdapter.Control
