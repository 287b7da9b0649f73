import DebugAdapter.Proofs.Monitor.Progress
/-!
# Stepping through a program

Somebody starts an interpreter, waits for its first status, and then makes it execute one instruction
after the other, waiting each time for a status that shows the effect. Meanwhile ticks begin whenever
their time comes, and messages take as long as they take. Whatever the order of all this, what is
known at the end of a wait is the step that the program has come to, and nothing else.
-/

namespace DebugAdapter.Monitor

open Interpreter (ScriptedInterpreter ScriptedProgram)

/-- An interpreter under a monitor, and somebody who makes it step. -/
structure Stepping where
  debuggee : Debuggee
  interpreter : ScriptedInterpreter
  /-- What is waited for: the first status, or a status after a step. -/
  wait : Option Waiter
  /-- How many times a step has been asked for. -/
  calls : Nat := 0

namespace Stepping

/-- What can happen. -/
inductive Happening where
  | activity (now : Millis) (a : Debuggee.Activity)
  /-- The interpreter reads. -/
  | serve
  | hear
  /-- A step is asked for. -/
  | call (now : Millis)
  /-- The wait is over because a tick has been noted that began late enough. -/
  | answer

/-- One happening, if it is possible. A step is asked for when the wait before it is over. -/
def happen? (c : Stepping) : Happening → Option Stepping
  | .activity now a => (c.debuggee.perform? now a).map fun d => { c with debuggee := d }
  | .serve =>
    (c.interpreter.read? c.debuggee.link.line).map fun r =>
      { c with
        debuggee := { c.debuggee with link := { c.debuggee.link with line := r.2 } }
        interpreter := r.1 }
  | .hear => c.debuggee.hear?.map fun r => { c with debuggee := r.2 }
  | .call now =>
    if c.wait.isNone then
      (c.debuggee.execute? now).map fun r =>
        { c with debuggee := r.2, wait := some r.1, calls := c.calls + 1 }
    else none
  | .answer =>
    if c.wait.any c.debuggee.monitor.hasRefreshed then some { c with wait := none } else none

/-- Several happenings. -/
def run (c : Stepping) (hs : List Happening) : Option Stepping := hs.foldlM happen? c

/-- An interpreter is started on a program. Its first status is that of any tick. -/
def start (config : Config) (now : Millis) (p : ScriptedProgram) : Stepping where
  debuggee := .start config now
  interpreter := .start p.script config.channel.delimiting
  wait := some { issued := 0, due := now + config.statusTimeout }

/-- Whether no request times out, and answers are settled in the order in which they came. -/
def Happening.InOrder : Happening → Prop
  | .activity _ a => Monitor.InOrder a
  | .serve | .hear | .call _ | .answer => True

/-- Whether no command to step is on its way to the interpreter. -/
structure Arrived (config : Config) (c : Stepping) : Prop where
  commands : ∀ data reply, .send Interpreter.stepCommand data reply ∉ c.debuggee.link.commands
  outbox : ∀ m ∈ c.debuggee.link.channel.outbox, m.type ≠ Interpreter.stepCommand
  pipe : ∃ ms, c.interpreter.intake.Carries config.channel.delimiting
    c.debuggee.link.line.outbound ms ∧ ∀ m ∈ ms, m.type ≠ Interpreter.stepCommand

/-- What holds all the time. -/
structure Kept (p : ScriptedProgram) (config : Config) (c : Stepping) (t : Transit) (r : Standing) :
    Prop where
  live : Live p config c.debuggee c.interpreter t r
  sent : t.sent = c.calls
  waits : ∀ w ∈ c.wait, Awaits c.debuggee.monitor r w.issued t.sent

variable {p : ScriptedProgram} {config : Config} {c c' : Stepping}

theorem kept_start (fits : p.Fits) (now : Millis) : Kept p config (start config now p) {} {} where
  live := Live.start fits config now
  sent := rfl
  waits := by
    intro w wait
    cases wait
    intro stage later
    cases later

section

variable {t : Transit} {r : Standing} (kept : Kept p config c t r)

include kept

theorem Kept.moved {d : Debuggee} {s : ScriptedInterpreter} {t' : Transit} {r' : Standing}
    {es : List Event} (live : Live p config d s t' r')
    (moved : Moved c.debuggee.monitor t r d.monitor t' r' es) :
    Kept p config { c with debuggee := d, interpreter := s } t' r' where
  live := live
  sent := moved.sent.trans kept.sent
  waits := fun w wait => moved.sent ▸ moved.waits w.issued (kept.waits w wait)

theorem Kept.happen (fits : p.Fits) (outOfBand : config.channel.delimiting.OutOfBand)
    {h : Happening} (inOrder : h.InOrder) (happened : c.happen? h = some c') :
    ∃ t r, Kept p config c' t r := by
  cases h with
  | activity now a =>
      obtain ⟨d, performed, rfl⟩ := Option.map_eq_some_iff.mp happened
      obtain ⟨t', r', es, live, moved, -⟩ := kept.live.perform fits outOfBand inOrder performed
      exact ⟨t', r', kept.moved live moved⟩
  | serve =>
      obtain ⟨⟨s, line⟩, read, rfl⟩ := Option.map_eq_some_iff.mp happened
      obtain ⟨t', r', live, moved⟩ := kept.live.serve fits outOfBand read
      exact ⟨t', r', kept.moved live moved⟩
  | hear =>
      obtain ⟨⟨e, d⟩, heard, rfl⟩ := Option.map_eq_some_iff.mp happened
      have same : d = { c.debuggee with news := d.news } := by
        unfold Debuggee.hear? at heard
        split at heard <;> cases heard
        rfl
      refine ⟨t, r, ?_, kept.sent, ?_⟩
      · rw [same]
        exact kept.live.hear d.news
      · rw [same]
        exact kept.waits
  | call now =>
      simp only [happen?] at happened
      split at happened
      · obtain ⟨⟨w, d⟩, executed, rfl⟩ := Option.map_eq_some_iff.mp happened
        obtain ⟨t', live, sent, -, -, waits⟩ := kept.live.execute executed
        refine ⟨t', r, live, ?_, ?_⟩
        · rw [sent, kept.sent]
        · intro w' wait
          cases wait
          exact waits t'.sent
      · cases happened
  | answer =>
      simp only [happen?] at happened
      split at happened
      · cases happened
        exact ⟨t, r, kept.live, kept.sent, by simp⟩
      · cases happened

theorem Kept.arrived (made : t.made = c.calls) : Arrived config c := by
  have none_ : .step ∉ t.orders := by
    refine not_mem_of_steps ?_
    have sent := kept.sent
    rw [Transit.sent, made] at sent
    omega
  simp only [Transit.orders, List.mem_append, not_or] at none_
  have quiet {n : Nat} {os : List Order} (asks : .step ∉ os) :
      ∀ m ∈ messages n os, m.type ≠ Interpreter.stepCommand := by
    intro m member
    obtain ⟨o, listed, type⟩ := type_of_mem_messages member
    rw [type]
    cases o with
    | step => exact absurd listed asks
    | ask q => exact q.type_ne_step
  refine ⟨?_, ?_, _, kept.live.flow.outbound, quiet none_.1.1⟩
  · intro data reply member
    rw [kept.live.flow.commands, Transit.commands, kept.live.going, if_neg (by simp), List.append_nil] at member
    obtain ⟨o, listed, same⟩ := List.mem_map.mp member
    cases o with
    | step => exact none_.2 listed
    | ask q => cases same
  · rw [kept.live.flow.outbox]
    exact quiet none_.1.2

end

theorem kept_run (fits : p.Fits) (outOfBand : config.channel.delimiting.OutOfBand)
    (hs : List Happening) (inOrder : ∀ h ∈ hs, h.InOrder) {t : Transit} {r : Standing}
    (kept : Kept p config c t r) (ran : c.run hs = some c') : ∃ t r, Kept p config c' t r := by
  induction hs generalizing c t r with
  | nil =>
      cases ran
      exact ⟨t, r, kept⟩
  | cons h hs ih =>
      obtain ⟨c₁, happened, rest⟩ := Option.bind_eq_some_iff.mp ran
      obtain ⟨inOrder, later⟩ := List.forall_mem_cons.mp inOrder
      obtain ⟨t₁, r₁, kept₁⟩ := kept.happen fits outOfBand inOrder happened
      exact ih later kept₁ rest

theorem run_append (c : Stepping) (hs hs' : List Happening) :
    c.run (hs ++ hs') = (c.run hs).bind (·.run hs') := List.foldlM_append

/-! ## No wait lasts for ever -/

/-- What a monitor and its interpreter can do, they can do here. -/
theorem run_of_stirs {d : Debuggee} {s : ScriptedInterpreter}
    (stirs : Relation.ReflTransGen Stirs (c.debuggee, c.interpreter) (d, s)) :
    ∃ hs, (∀ h ∈ hs, h.InOrder) ∧ c.run hs = some { c with debuggee := d, interpreter := s } := by
  generalize last_eq : (d, s) = last at stirs
  induction stirs generalizing d s with
  | refl =>
      cases last_eq
      exact ⟨[], by simp, rfl⟩
  | @tail _ _ _ stir ih =>
      cases stir with
      | @activity d₁ d' s₁ now a inOrder performed =>
          cases last_eq
          obtain ⟨hs, listed, ran⟩ := ih rfl
          refine ⟨hs ++ [.activity now a], ?_, ?_⟩
          · simpa [or_imp, forall_and] using ⟨listed, inOrder⟩
          · rw [run_append, ran]
            simp [run, happen?, performed]
      | @serve d₁ s₁ s' line read =>
          cases last_eq
          obtain ⟨hs, listed, ran⟩ := ih rfl
          refine ⟨hs ++ [.serve], ?_, ?_⟩
          · simpa [or_imp, forall_and] using ⟨listed, trivial⟩
          · rw [run_append, ran]
            simp [run, happen?, read]

section

variable (fits : p.Fits) (outOfBand : config.channel.delimiting.OutOfBand)

include fits outOfBand

theorem Kept.answerable {t : Transit} {r : Standing} (kept : Kept p config c t r) {w : Waiter}
    (wait : c.wait = some w) (issued : w.issued ≤ c.debuggee.monitor.ticksStarted) :
    ∃ hs c₁, (∀ h ∈ hs, h.InOrder) ∧ c.run hs = some c₁ ∧
      c₁.happen? .answer = some { c₁ with wait := none } ∧ c₁.calls = c.calls := by
  obtain ⟨d, s, stirs, refreshed, -⟩ := kept.live.refresh fits outOfBand
  obtain ⟨hs, inOrder, ran⟩ := run_of_stirs stirs
  refine ⟨hs, _, inOrder, ran, ?_, rfl⟩
  have noted : d.monitor.hasRefreshed w = true := decide_eq_true (issued.trans_lt refreshed)
  simp [happen?, wait, noted]

/-- Any number of steps can be asked for, one after the other, and each wait for one ends. -/
theorem exists_run (now : Millis) (k : Nat) :
    ∃ hs c, (∀ h ∈ hs, h.InOrder) ∧ (start config now p).run hs = some c ∧
      c.happen? .answer = some { c with wait := none } ∧ c.calls = k := by
  induction k with
  | zero => exact (kept_start fits now).answerable fits outOfBand rfl (Nat.zero_le _)
  | succ k ih =>
      obtain ⟨hs, c, inOrder, ran, answered, calls⟩ := ih
      obtain ⟨t, r, kept⟩ := kept_run fits outOfBand hs inOrder (kept_start fits now) ran
      obtain ⟨t₁, r₁, kept₁⟩ := kept.happen (h := .answer) fits outOfBand trivial answered
      obtain ⟨w, d, executed⟩ := kept₁.live.able now
      have called : happen? { c with wait := none } (.call now) =
          some { c with debuggee := d, wait := some w, calls := c.calls + 1 } := by
        simp [happen?, executed]
      obtain ⟨t₂, r₂, kept₂⟩ := kept₁.happen (h := .call now) fits outOfBand trivial called
      obtain ⟨-, -, -, monitor, -, issued, -⟩ := kept₁.live.flow.execute kept₁.live.going executed
      obtain ⟨hs', c', inOrder', ran', answered', calls'⟩ :=
        kept₂.answerable fits outOfBand rfl (by rw [issued, monitor])
      refine ⟨hs ++ [.answer, .call now] ++ hs', c', ?_, ?_, answered', by rw [calls', calls]⟩
      · simp only [List.mem_append, List.mem_cons, List.not_mem_nil, or_false]
        rintro h ((member | rfl | rfl) | member)
        · exact inOrder h member
        · trivial
        · trivial
        · exact inOrder' h member
      · rw [run_append, run_append, ran]
        simpa [run, answered, called] using ran'

end

/-- At the end of a wait the program has made exactly the steps that were asked for, and everything
that is known shows the step that it has come to. -/
theorem run_exhibits (fits : p.Fits) (outOfBand : config.channel.delimiting.OutOfBand)
    (now : Millis) (hs : List Happening) (inOrder : ∀ h ∈ hs, h.InOrder)
    (ran : (start config now p).run hs = some c) (answered : c.happen? .answer = some c') :
    Exhibits (p.stepAfter c'.calls) c'.debuggee.snapshot ∧
      c'.interpreter.script.steps = c'.calls ∧ Arrived config c' := by
  obtain ⟨t, r, kept⟩ := kept_run fits outOfBand hs inOrder (kept_start fits now) ran
  simp only [happen?] at answered
  split at answered
  · rename_i refreshed
    cases answered
    obtain ⟨w, wait, refreshed⟩ := (Option.any_eq_true ..).mp refreshed
    obtain ⟨exhibits, noted⟩ := (kept.waits w wait).exhibits kept.live.timely
      (of_decide_eq_true refreshed)
    rw [kept.sent] at exhibits noted
    have made : t.made = c.calls := by
      have sent := kept.sent
      have noted_le := kept.live.noted
      rw [Transit.sent] at sent
      omega
    have finished : Kept p config { c with wait := none } t r :=
      ⟨kept.live, kept.sent, by simp⟩
    exact ⟨exhibits, kept.live.flow.script.steps.trans made, finished.arrived made⟩
  · cases answered

/-- A program of two steps. -/
def twoSteps : ScriptedProgram :=
  { steps := [.inState .setGlobalVariables (-1), .inState .callUpdate 0] }

theorem run_exhibits_called :
    ∃ hs c c', (∀ h ∈ hs, h.InOrder) ∧ (start {} 0 twoSteps).run hs = some c ∧
      c.happen? .answer = some c' ∧ c'.calls = 1 ∧
      Exhibits (twoSteps.stepAfter c'.calls) c'.debuggee.snapshot ∧
      c'.interpreter.script.steps = c'.calls ∧ Arrived {} c' := by
  have fits : twoSteps.Fits := by
    refine ⟨by decide, ?_, by simp [twoSteps]⟩
    simp only [twoSteps, List.forall_mem_cons, List.not_mem_nil, false_implies, implies_true,
      and_true]
    exact ⟨⟨by decide, by decide, by decide, by simp [Interpreter.ScriptedStep.inState]⟩,
      ⟨by decide, by decide, by decide, by simp [Interpreter.ScriptedStep.inState]⟩⟩
  have outOfBand : (Config.channel {}).delimiting.OutOfBand :=
    Framing.Delimiting.outOfBand_of_control (by decide)
  obtain ⟨hs, c, inOrder, ran, answered, calls⟩ := exists_run fits outOfBand 0 1
  exact ⟨hs, c, _, inOrder, ran, answered, calls,
    run_exhibits fits outOfBand 0 hs inOrder ran answered⟩

end Stepping

end DebugAdapter.Monitor
