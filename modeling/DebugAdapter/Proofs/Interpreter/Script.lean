import DebugAdapter.Interpreter.Script
import DebugAdapter.Proofs.Interpreter.Answers
import DebugAdapter.Proofs.Table
/-!
# What a scripted program answers

After `n` steps the interpreter of a scripted program answers as the program's step `n` says, or its
last one when there are not so many; about the compiled code it answers the same all the time.
-/

namespace DebugAdapter.Interpreter

/-! ## Tables -/

theorem lookup_replace (answers : List (String × Json)) (type t : String) (data : Json) :
    ((type, data) :: answers.filter (·.1 ≠ type)).lookup t =
      if t = type then some data else answers.lookup t := by
  rw [Table.lookup_cons]
  split
  · rfl
  · rename_i other
    exact Table.lookup_filter answers other

theorem lookup_change (answers changes : List (String × Json)) (t : String)
    (distinct : (changes.map (·.1)).Nodup) :
    (Script.change answers (changes.map fun a => (a.1, some a.2))).lookup t =
      (changes.lookup t).or (answers.lookup t) := by
  induction changes generalizing answers with
  | nil => rfl
  | cons c changes ih =>
      obtain ⟨fresh, distinct⟩ := List.nodup_cons.mp distinct
      have later := ih ((c.1, c.2) :: answers.filter (·.1 ≠ c.1)) distinct
      rw [lookup_replace] at later
      rw [List.map_cons, Script.change, List.foldl_cons]
      refine later.trans ?_
      by_cases same : t = c.1
      · have absent : changes.lookup t = none := by
          rw [List.lookup_eq_none_iff]
          intro d member
          refine bne_iff_ne.mpr ?_
          intro equal
          have key : d.1 = c.1 := equal.symm.trans same
          have listed := List.mem_map_of_mem (f := (·.1)) member
          rw [key] at listed
          exact fresh listed
        rw [if_pos same, absent, same, List.lookup_cons_self]
        rfl
      · rw [if_neg same, List.lookup_cons, beq_false_of_ne same]

namespace ScriptedStep

/-- The questions that a step answers. -/
theorem answers_keys (s : ScriptedStep) :
    s.answers.map (·.1) = [stateQuery, registersQuery, stackQuery, callStackQuery] := rfl

theorem lookup_answers_none (s s' : ScriptedStep) {t : String} (h : s.answers.lookup t = none) :
    s'.answers.lookup t = none := by
  rw [List.lookup_eq_none_iff] at h ⊢
  have keys : ∀ d ∈ s.answers.map (·.1), (t == d) = false := by
    intro d member
    obtain ⟨a, found, rfl⟩ := List.mem_map.mp member
    simpa using h a found
  rw [answers_keys] at keys
  intro a member
  have key := keys a.1 (s'.answers_keys ▸ List.mem_map_of_mem member)
  simp [bne, key]

end ScriptedStep

namespace ScriptedProgram

/-- What is reported after `n` steps: the last step for ever. -/
def stepAfter (p : ScriptedProgram) (n : Nat) : ScriptedStep :=
  p.steps.getD (min n (p.steps.length - 1)) default

/-- The answer to a question after `n` steps. -/
def answer? (p : ScriptedProgram) (n : Nat) (type : String) : Option Json :=
  ((p.stepAfter n).answers ++ p.compilerAnswers).lookup type

end ScriptedProgram

/-- Whether a script has come to step `n` of a program. -/
structure Script.At (s : Script) (p : ScriptedProgram) (n : Nat) : Prop where
  steps : s.steps = n
  upcoming : s.upcoming =
    (p.steps.drop (n + 1)).map fun step => step.answers.map fun a => (a.1, some a.2)
  answers : ∀ type, s.answers.lookup type = p.answer? n type

namespace Script

variable {s : Script} {p : ScriptedProgram} {n : Nat}

theorem at_start (nonempty : p.steps ≠ []) : p.script.At p 0 := by
  cases steps : p.steps with
  | nil => exact absurd steps nonempty
  | cons first rest =>
      have now : p.stepAfter 0 = first := by
        rw [ScriptedProgram.stepAfter, steps]
        rfl
      refine ⟨?_, ?_, ?_⟩
      · simp only [ScriptedProgram.script, steps]
      · simp only [ScriptedProgram.script, steps, List.drop_succ_cons, List.drop_zero]
      · intro type
        simp only [ScriptedProgram.script, steps, ScriptedProgram.answer?, now]

theorem At.step (here : s.At p n) : s.step.At p (n + 1) := by
  cases later : p.steps.drop (n + 1) with
  | nil =>
      have last : p.steps.length ≤ n + 1 := List.drop_eq_nil_iff.mp later
      have same : p.stepAfter (n + 1) = p.stepAfter n := by
        rw [ScriptedProgram.stepAfter, ScriptedProgram.stepAfter,
          show min (n + 1) (p.steps.length - 1) = min n (p.steps.length - 1) by omega]
      have none_ : s.upcoming = [] := by rw [here.upcoming, later, List.map_nil]
      refine ⟨congrArg (· + 1) here.steps, ?_, ?_⟩
      · rw [Script.step, none_, List.drop_eq_nil_of_le (by omega)]
        rfl
      · intro type
        rw [Script.step, none_, ScriptedProgram.answer?, same]
        exact here.answers type
  | cons next rest =>
      have inside : n + 1 < p.steps.length := by
        refine Nat.lt_of_not_le fun outside => ?_
        rw [List.drop_eq_nil_of_le outside] at later
        cases later
      have now : p.stepAfter (n + 1) = next := by
        have found : p.steps[n + 1]? = some next := by
          rw [← List.head?_drop, later, List.head?_cons]
        rw [ScriptedProgram.stepAfter, show min (n + 1) (p.steps.length - 1) = n + 1 by omega,
          List.getD_eq_getElem?_getD, found, Option.getD_some]
      have coming : s.upcoming = (next.answers.map fun a => (a.1, some a.2)) ::
          rest.map fun step => step.answers.map fun a => (a.1, some a.2) := by
        rw [here.upcoming, later, List.map_cons]
      refine ⟨congrArg (· + 1) here.steps, ?_, ?_⟩
      · rw [Script.step, coming, ← List.drop_drop (i := 1), later]
        rfl
      · intro type
        have changed : (change s.answers (next.answers.map fun a => (a.1, some a.2))).lookup type =
            (next.answers.lookup type).or (s.answers.lookup type) := by
          refine lookup_change _ _ _ ?_
          rw [next.answers_keys]
          decide
        rw [Script.step, coming]
        refine changed.trans ?_
        rw [here.answers, ScriptedProgram.answer?, ScriptedProgram.answer?, now, List.lookup_append,
          List.lookup_append]
        cases answered : next.answers.lookup type with
        | some data => rfl
        | none =>
            rw [next.lookup_answers_none (p.stepAfter n) answered]
            rfl

/-- A message is answered as the program says, after the step if it commands one. -/
theorem At.receive (here : s.At p n) (m : Message) :
    (s.receive m).1.At p (if m.type = stepCommand then n + 1 else n) ∧
      (s.receive m).2 = p.answer? (if m.type = stepCommand then n + 1 else n) m.type := by
  by_cases command : m.type = stepCommand
  · simp only [Script.receive, command, beq_self_eq_true, if_true]
    exact ⟨here.step, here.step.answers stepCommand⟩
  · simp only [Script.receive, beq_false_of_ne command, command, Bool.false_eq_true, if_false]
    exact ⟨here, here.answers m.type⟩

end Script

/-! ## Programs whose reports come through -/

/-- Whether what a step reports can be read back from it. -/
structure ScriptedStep.Fits (s : ScriptedStep) : Prop where
  basePointer : Text.IntegerRange.signed64.holds s.basePointer = true
  codePointer : Text.IntegerRange.signed64.holds s.codePointer = true
  size : Text.IntegerRange.signed64.holds s.stack.length = true
  wired : ∀ item ∈ s.stack, item.Wired

theorem ScriptedStep.answers_carried {s : ScriptedStep} (fits : s.Fits) :
    ∀ a ∈ s.answers, Carried 3 a.2 := by
  simp only [ScriptedStep.answers, List.forall_mem_cons, List.not_mem_nil, false_implies,
    implies_true, and_true]
  exact ⟨Carried.string s.state.name 3,
    (Registers.carried (r := ⟨s.basePointer, s.codePointer⟩) fits.basePointer fits.codePointer).mono
      (by decide),
    StackDump.carried fits.size, (strings_carried s.callStack).mono (by decide)⟩

namespace ScriptedProgram

/-- Whether a program reports anything, and everything that it reports can be read back. -/
structure Fits (p : ScriptedProgram) : Prop where
  nonempty : p.steps ≠ []
  steps : ∀ s ∈ p.steps, s.Fits
  debugInfo : ∀ info ∈ p.debugInfo, info.Fits

variable {p : ScriptedProgram}

theorem stepAfter_mem (nonempty : p.steps ≠ []) (n : Nat) : p.stepAfter n ∈ p.steps := by
  have pos : 0 < p.steps.length := List.length_pos_iff.mpr nonempty
  have inside : min n (p.steps.length - 1) < p.steps.length := by omega
  rw [stepAfter, List.getD_eq_getElem?_getD, List.getElem?_eq_getElem inside, Option.getD_some]
  exact List.getElem_mem inside

theorem compilerAnswers_carried (fits : p.Fits) : ∀ a ∈ p.compilerAnswers, Carried 3 a.2 := by
  unfold compilerAnswers
  split
  · simp
  · simp only [List.forall_mem_cons, List.not_mem_nil, false_implies, implies_true, and_true]
    exact ⟨Carried.array fun info member => DebugInfo.carried (fits.debugInfo info member),
      Carried.array fun i _ => i.carried⟩

theorem answer?_carried (fits : p.Fits) {n : Nat} {type : String} {v : Json}
    (answered : p.answer? n type = some v) : Carried 126 v := by
  obtain ⟨before, after, found, -⟩ := List.lookup_eq_some_iff.mp answered
  have member : (type, v) ∈ (p.stepAfter n).answers ++ p.compilerAnswers := by
    rw [found]
    simp
  have carried : Carried 3 v := by
    obtain step | compiler := List.mem_append.mp member
    · exact ScriptedStep.answers_carried (fits.steps _ (stepAfter_mem fits.nonempty n)) _ step
    · exact compilerAnswers_carried fits _ compiler
  exact carried.mono (by decide)

/-- The questions of a tick are always answered. -/
theorem answer?_state (n : Nat) :
    p.answer? n stateQuery = some (p.stepAfter n).state.encode := rfl

theorem answer?_registers (n : Nat) : p.answer? n registersQuery =
    some (Registers.mk (p.stepAfter n).basePointer (p.stepAfter n).codePointer).encode := rfl

theorem answer?_stack (n : Nat) : p.answer? n stackQuery =
    some (StackDump.mk (p.stepAfter n).stack.length (p.stepAfter n).stack).encode := rfl

theorem answer?_callStack (n : Nat) :
    p.answer? n callStackQuery = some (Json.strings (p.stepAfter n).callStack) := rfl

/-- A step is not answered. -/
theorem answer?_step (n : Nat) : p.answer? n stepCommand = none := by
  unfold answer? compilerAnswers
  split <;> rfl

end ScriptedProgram

end DebugAdapter.Interpreter
