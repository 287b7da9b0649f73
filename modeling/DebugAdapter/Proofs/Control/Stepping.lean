import DebugAdapter.Proofs.Control.Continuing
import DebugAdapter.Proofs.Control.Starts
/-!
# Stepping exactly

A command to step goes through the set-up, takes its own instructions, reports a stop, and last goes
through the tear-down. By instructions it takes one. By lines it takes as many as lead from the line
where it began to another place, or to the end of the program. Breakpoints do not matter. Where it
stops is remembered, so that a command to run on that comes next does not stop on that line before it
has been on another one.
-/

namespace DebugAdapter

open Program (Breakpoints Snapshot)

namespace Control

/-! ## Where a step is over -/

/-- The line where a step begins. A place without a line counts as line -1. -/
def BeginsOn (x : Snapshot) (line : Int) : Prop :=
  x.IsOn line ∨ (∀ other, ¬ x.IsOn other) ∧ line = -1

/-- Whether a step is over after `k` instructions of its own. -/
def IsOver (granularity : Granularity) (s : Nat → Snapshot) (k : Nat) : Prop :=
  0 < k ∧
    match granularity with
    | .instruction => True
    | .line => (s k).state.isRunningCode = false ∨ ∃ line, BeginsOn (s 0) line ∧ ¬ (s k).IsOn line

theorem beginsOn_iff {x : Snapshot} {line : Int} :
    BeginsOn x line ↔ x.currentLine?.getD (-1) = line := by
  rw [BeginsOn]
  simp only [← Snapshot.currentLine?_eq_some]
  cases x.currentLine? with
  | none => simp [eq_comm]
  | some other => simp

theorem isOver_line {s : Nat → Snapshot} {k : Nat} :
    IsOver .line s k ↔ 0 < k ∧ ((s k).state.isRunningCode = false ∨
      (s k).currentLine? ≠ some ((s 0).currentLine?.getD (-1))) := by
  simp only [IsOver, beginsOn_iff, exists_eq_left', ← Snapshot.currentLine?_eq_some, ne_eq]

instance (granularity : Granularity) (s : Nat → Snapshot) (k : Nat) :
    Decidable (IsOver granularity s k) :=
  match granularity with
  | .instruction => inferInstanceAs (Decidable (0 < k ∧ True))
  | .line => decidable_of_iff _ isOver_line.symm

theorem after_stepping (bs : Breakpoints) (x : Snapshot) (memory : Memory) (reason : StopReason)
    (origin : Option Int) :
    (sight bs x).after memory true (.stepping reason origin) =
      if (sight bs x).staysOn origin then
        { memory, notices := [], next := .execute (.stepping reason origin) }
      else (sight bs x).arrive memory reason := by
  simp only [View.after, sight, Bool.true_and, Bool.and_true]
  rfl

/-- A step goes on as long as it is not over. -/
theorem staysOn_iff (s : Nat → Snapshot) (granularity : Granularity) (bs bs' : Breakpoints)
    (k : Nat) :
    (sight bs (s (k + 1))).staysOn ((sight bs' (s 0)).origin granularity) = true ↔
      ¬ IsOver granularity s (k + 1) := by
  cases granularity with
  | instruction => exact ⟨nofun, fun on => absurd ⟨Nat.succ_pos k, trivial⟩ on⟩
  | line =>
      rw [isOver_line, not_and, not_or, not_not, Bool.not_eq_false]
      change ((s (k + 1)).state.isRunningCode &&
        (s (k + 1)).currentLine? == some ((s 0).currentLine?.getD (-1))) = true ↔ _
      rw [Bool.and_eq_true, beq_iff_eq]
      exact ⟨fun stays _ => stays, fun stays => stays (Nat.succ_pos k)⟩

/-- Whether `n` is the number of a step's own instructions. -/
def TakesOwn (granularity : Granularity) (s : Nat → Snapshot) (n : Nat) : Prop :=
  (∀ k < n, ¬ IsOver granularity s k) ∧ IsOver granularity s n

instance (granularity : Granularity) (s : Nat → Snapshot) (n : Nat) :
    Decidable (TakesOwn granularity s n) :=
  inferInstanceAs (Decidable ((∀ k < n, ¬ IsOver granularity s k) ∧ IsOver granularity s n))

/-- A step by instructions takes one. -/
theorem takesOwn_instruction {s : Nat → Snapshot} {n : Nat} :
    TakesOwn .instruction s n ↔ n = 1 := by
  constructor
  · rintro ⟨first, ended, -⟩
    by_contra other
    exact first 1 (by omega) ⟨Nat.one_pos, trivial⟩
  · rintro rfl
    exact ⟨fun k earlier ended => absurd ended.1 (by omega), Nat.one_pos, trivial⟩

/-! ## All decisions -/

/-- What a step decides, each time that it looks at the program. -/
def stepDecisions (granularity : Granularity) (memory : Memory) (course : Nat → Snapshot) :
    Nat → Decision
  | 0 => (sight {} (course 0)).lead memory (.step granularity .step)
  | j + 1 =>
    match (stepDecisions granularity memory course j).next with
    | .execute stage =>
      (sight {} (course (j + 1))).after (stepDecisions granularity memory course j).memory true stage
    | .finished => stepDecisions granularity memory course j

section

variable {granularity : Granularity} {memory : Memory} {course : Nat → Snapshot}

theorem chained_stepDecisions (granularity : Granularity) (memory : Memory)
    (course : Nat → Snapshot) :
    Chained {} course (stepDecisions granularity memory course) where
  next j stage next := by rw [stepDecisions, next]
  rests j finished := by rw [stepDecisions, finished]

section

variable {m n k : Nat} (setUp : Takes course m)
include setUp

theorem stepDecisions_leading {j : Nat} (early : j < m) :
    stepDecisions granularity memory course j =
      { memory, notices := [], next := .execute (.leading (.step granularity .step)) } := by
  induction j with
  | zero => exact lead_attended (setUp.through 0 early)
  | succ j ih =>
      have before := ih (Nat.lt_of_succ_lt early)
      rw [(chained_stepDecisions ..).next j _ (congrArg Decision.next before), before]
      exact lead_attended (setUp.through (j + 1) early)

theorem stepDecisions_begin : stepDecisions granularity memory course m =
    { memory, notices := []
      next := .execute (.stepping .step ((sight {} (course m)).origin granularity)) } := by
  cases m with
  | zero => exact lead_unattended setUp.past
  | succ m =>
      have before : stepDecisions granularity memory course m = _ :=
        stepDecisions_leading setUp (Nat.lt_succ_self m)
      rw [(chained_stepDecisions ..).next m _ (congrArg Decision.next before), before]
      exact lead_unattended setUp.past

/-- A step goes on from the line where it began until it is over. -/
theorem stepDecisions_stepping
    (on : ∀ j ≤ k, ¬ IsOver granularity (fun j => course (m + j)) j) :
    stepDecisions granularity memory course (m + k) =
      { memory, notices := []
        next := .execute (.stepping .step ((sight {} (course m)).origin granularity)) } := by
  induction k with
  | zero => exact stepDecisions_begin setUp
  | succ k ih =>
      have before := ih fun j le => on j (Nat.le_succ_of_le le)
      have stays := (staysOn_iff (fun j => course (m + j)) granularity {} {} k).mpr
        (on (k + 1) (Nat.le_refl _))
      rw [← Nat.add_assoc, (chained_stepDecisions ..).next _ _ (congrArg Decision.next before),
        before, after_stepping]
      exact if_pos stays

/-- Where it is over it reports the stop and remembers the place. -/
theorem stepDecisions_over (own : TakesOwn granularity (fun j => course (m + j)) n) :
    stepDecisions granularity memory course (m + n) =
      { memory := { memory with resumeFrom := some (course (m + n)).location }
        notices := [.stopped .step]
        next := (sight {} (course (m + n))).trail } := by
  obtain ⟨on, ended⟩ := own
  obtain ⟨n, rfl⟩ := Nat.exists_eq_add_one.mpr ended.1
  have before : stepDecisions granularity memory course (m + n) = _ :=
    stepDecisions_stepping setUp fun j le => on j (Nat.lt_succ_of_le le)
  have leaves : ¬ (sight {} (course (m + (n + 1)))).staysOn
      ((sight {} (course m)).origin granularity) = true := fun stays =>
    (staysOn_iff (fun j => course (m + j)) granularity {} {} n).mp stays ended
  rw [← Nat.add_assoc, (chained_stepDecisions ..).next _ _ (congrArg Decision.next before), before,
    after_stepping]
  exact if_neg leaves

theorem stepDecisions_steps (on : ∀ k < n, ¬ IsOver granularity (fun k => course (m + k)) k) :
    ∀ l < m + n, (stepDecisions granularity memory course l).notices = [] ∧
      ∃ stage, (stepDecisions granularity memory course l).next = .execute stage := by
  intro l earlier
  obtain leading | later := Nat.lt_or_ge l m
  · rw [stepDecisions_leading setUp leading]
    exact ⟨rfl, _, rfl⟩
  · obtain ⟨k, rfl⟩ := Nat.exists_eq_add_of_le later
    rw [stepDecisions_stepping setUp fun j le => on j (by omega)]
    exact ⟨rfl, _, rfl⟩

/-- Once it is over it goes on as long as the tear-down lasts. -/
theorem stepDecisions_onward (own : TakesOwn granularity (fun j => course (m + j)) n) {r : Nat}
    (torn : ∀ j < r, (course (m + n + j)).state.isBootstrap = true) :
    ∀ l < m + n + r, ∃ stage, (stepDecisions granularity memory course l).next = .execute stage := by
  intro l earlier
  obtain before | later := Nat.lt_or_ge l (m + n)
  · exact (stepDecisions_steps setUp own.1 l before).2
  · obtain ⟨k, rfl⟩ := Nat.exists_eq_add_of_le later
    rw [(chained_stepDecisions ..).trailing (stepDecisions_over setUp own)
      (fun j le => torn j (by omega)), trail_sight, if_pos (torn k (by omega))]
    exact ⟨_, rfl⟩

end

/-! ## Breakpoints do not matter -/

/-- The stages of a step. -/
def Stage.IsOfStep : Stage → Prop
  | .leading goal => ∃ granularity reason, goal = .step granularity reason
  | .running .. => False
  | .stepping .. | .trailing => True

/-- At a stage of a step breakpoints do not matter. -/
theorem after_sight {stage : Stage} (own : stage.IsOfStep) (bs : Breakpoints) (x : Snapshot)
    (memory : Memory) :
    (sight bs x).after memory true stage = (sight {} x).after memory true stage := by
  cases stage with
  | leading goal =>
      obtain ⟨granularity, reason, rfl⟩ := own
      rfl
  | running => exact own.elim
  | stepping | trailing => rfl

theorem isOfStep_trail {v : View} {stage : Stage} (next : v.trail = .execute stage) :
    stage.IsOfStep := by
  rw [v.trail_trailing next]
  trivial

theorem isOfStep_lead {v : View} {reason : StopReason} {stage : Stage}
    (next : (v.lead memory (.step granularity reason)).next = .execute stage) : stage.IsOfStep := by
  unfold View.lead at next
  split at next
  · cases next
    exact ⟨granularity, reason, rfl⟩
  · rw [View.begin] at next
    split at next
    · cases next
      trivial
    · exact isOfStep_trail next

theorem isOfStep_after {v : View} {stage stage' : Stage} (own : stage.IsOfStep)
    (next : (v.after memory true stage).next = .execute stage') : stage'.IsOfStep := by
  cases stage with
  | leading goal =>
      obtain ⟨granularity, reason, rfl⟩ := own
      exact isOfStep_lead next
  | running => exact own.elim
  | stepping reason origin =>
      simp only [View.after] at next
      split at next
      · cases next
        trivial
      · exact isOfStep_trail next
  | trailing => exact isOfStep_trail next

/-- A step remains one. -/
theorem isOfStep_stepDecisions {j : Nat} {stage : Stage}
    (next : (stepDecisions granularity memory course j).next = .execute stage) :
    stage.IsOfStep := by
  induction j generalizing stage with
  | zero => exact isOfStep_lead next
  | succ j ih =>
      cases before : (stepDecisions granularity memory course j).next with
      | finished =>
          rw [(chained_stepDecisions ..).rests j before] at next
          exact ih next
      | execute stage' =>
          rw [(chained_stepDecisions ..).next j _ before] at next
          exact isOfStep_after (ih before) next

theorem decides_step (granularity : Granularity) (course : Nat → Snapshot) (c : Control)
    (os : Nat → Occurrence) :
    Decides (stepDecisions granularity c.memory course) (.step granularity .step) course c os where
  first := rfl
  next n _ j stage next := by
    rw [after_sight (isOfStep_stepDecisions next)]
    exact (chained_stepDecisions ..).next j stage next

end

/-! ## The next command to run on -/

/-- While nobody gets a turn nothing is remembered anew. -/
theorem rests_of_ungranted {m : Moment} (idle : m.before.turn = none)
    (ungranted : m.granted? = none) :
    m.after.turn = none ∧ m.after.memory = m.before.memory := by
  have stride : Stride m.before m.happening m.after := m.before.happen_stride m.happening
  have waits {t : Task} {queue : List Task} (first : m.before.queue = t :: queue) :
      m.after.queue ≠ queue := Moment.queue_ne_of_ungranted ungranted first
  generalize m.happening = h at stride
  generalize m.after = c' at stride waits ⊢
  cases stride with
  | aside _ aside | closed aside => exact ⟨aside.turn.trans idle, aside.memory⟩
  | request | ask => exact ⟨idle, rfl⟩
  | @launch _ now t queue program _ debug _ first errand =>
      have begun := ({ m.before with queue } : Control).begin_tasks now t
      rw [begin, errand] at begun
      exact absurd begun.1 (waits first)
  | nobody _ first => exact absurd rfl (waits first)
  | pursue _ first => exact absurd (followed ..).queue (waits first)
  | install turn | giveUp turn | release turn | enter turn | drive turn =>
      cases idle.symm.trans turn

theorem rests_during {c : Control} {os : Nat → Occurrence} {l l' : Nat}
    (idle : (c.during os l).turn = none) (later : l ≤ l')
    (quiet : ∀ k, l ≤ k → k < l' → (c.momentAt os k).granted? = none) :
    (c.during os l').turn = none ∧ (c.during os l').memory = (c.during os l).memory := by
  induction later with
  | refl => exact ⟨idle, rfl⟩
  | @step k later ih =>
      obtain ⟨idle', same⟩ := ih fun j first earlier => quiet j first (Nat.lt_succ_of_lt earlier)
      obtain ⟨idle'', same'⟩ := rests_of_ungranted (m := c.momentAt os k) idle'
        (quiet k later (Nat.lt_succ_self k))
      exact ⟨idle'', same'.trans same⟩

/-- Whether the program has been off a line from its `m`th instruction to its `j`th. -/
def Off (course : Nat → Snapshot) (m : Nat) (line : Int) (j : Nat) : Prop :=
  ∃ k, m ≤ k ∧ k ≤ j ∧ ¬ (course k).IsOn line

/-- How a command to run on stands after `j` instructions, `m` of them the set-up's, if it comes from a
line: as long as the program has not been off the line the command is leaving it. -/
inductive ComesFrom (course : Nat → Snapshot) (m : Nat) (line : Int) (j : Nat) (memory : Memory) :
    Stage → Prop
  | leading (early : j < m) (resumes : memory.resumeFrom.bind (·.line) = some line) :
      ComesFrom course m line j memory (.leading .run)
  | running {leaving skipped : Option Int} (late : m ≤ j)
      (left : leaving = some line ∨ Off course m line j) :
      ComesFrom course m line j memory (.running leaving skipped)
  | trailing : ComesFrom course m line j memory .trailing

/-- Whether a stop at a line breakpoint is decided only when the program has been off the line. -/
structure Decision.Leaves (course : Nat → Snapshot) (m : Nat) (line : Int) (j : Nat) (δ : Decision) :
    Prop where
  stopped : .stopped .breakpoint ∈ δ.notices → Off course m line j
  goesOn : ∀ stage, δ.next = .execute stage → ComesFrom course m line j δ.memory stage

section

variable {bs : Breakpoints} {memory : Memory} {course : Nat → Snapshot} {m j : Nat} {line : Int}

theorem Off.mono {j' : Nat} (off : Off course m line j) (le : j ≤ j') : Off course m line j' := by
  obtain ⟨k, first, before, other⟩ := off
  exact ⟨k, first, Nat.le_trans before le, other⟩

theorem leaves_trail {v : View} {notices : List Notice}
    (stopped : .stopped .breakpoint ∈ notices → Off course m line j) :
    Decision.Leaves course m line j { memory, notices, next := v.trail } := by
  refine ⟨stopped, fun stage next => ?_⟩
  rw [v.trail_trailing next]
  exact .trailing

/-- While the program is on the line no line breakpoint counts, whatever there are. -/
theorem stopReason?_leaving {v : View} {debug : Bool} {skipped : Option Int} :
    v.stopReason? debug (some line) skipped ≠ some .breakpoint := by
  simp only [View.stopReason?, Option.isNone_some, Bool.false_and, Bool.false_eq_true, if_false]
  split
  · exact nofun
  · split <;> exact nofun

theorem leaves_run {leaving skipped : Option Int} (late : m ≤ j)
    (left : leaving = some line ∨ Off course m line j) :
    ((sight bs (course j)).run memory leaving skipped).Leaves course m line j := by
  have still : (sight bs (course j)).stillLeaving leaving = some line ∨ Off course m line j := by
    obtain rfl | off := left
    · by_cases on : (course j).IsOn line
      · exact .inl (if_pos (Snapshot.currentLine?_eq_some.mpr on))
      · exact .inr ⟨j, late, Nat.le_refl j, on⟩
    · exact .inr off
  unfold View.run
  split
  · dsimp only
    split
    · rename_i reason stops
      refine leaves_trail fun told => ?_
      cases List.mem_singleton.mp told
      obtain on | off := still
      · rw [on] at stops
        exact absurd stops stopReason?_leaving
      · exact off
    · refine ⟨nofun, fun stage next => ?_⟩
      cases next
      exact .running late still
  · exact leaves_trail nofun

theorem leaves_lead (setUp : Takes course m) (before : j ≤ m)
    (resumes : memory.resumeFrom.bind (·.line) = some line) :
    ((sight bs (course j)).lead memory .run).Leaves course m line j := by
  obtain early | rfl := Nat.lt_or_eq_of_le before
  · rw [lead_attended (setUp.through j early)]
    refine ⟨nofun, fun stage next => ?_⟩
    cases next
    exact .leading early resumes
  · rw [lead_unattended setUp.past]
    exact leaves_run (Nat.le_refl j) (.inl resumes)

theorem leaves_after {stage : Stage} (setUp : Takes course m)
    (comes : ComesFrom course m line j memory stage) :
    ((sight bs (course (j + 1))).after memory true stage).Leaves course m line (j + 1) := by
  cases comes with
  | leading early resumes => exact leaves_lead setUp early resumes
  | running late left =>
      exact leaves_run (Nat.le_succ_of_le late) (left.imp_right fun off => off.mono (Nat.le_succ j))
  | trailing => exact leaves_trail nofun

end

theorem stopped_of_mem_acts {δ : Decision} {acts : List Act} {i : Nat} {reason : StopReason}
    (shown : acts = δ.reasons.map .stop ++ [.step i] ∨ acts = δ.reasons.map .stop)
    (stops : .stop reason ∈ acts) : .stopped reason ∈ δ.notices := by
  have told : .stop reason ∈ δ.reasons.map Act.stop := by
    obtain rfl | rfl := shown
    · simpa using stops
    · exact stops
  obtain ⟨_, told, ⟨⟩⟩ := List.mem_map.mp told
  obtain ⟨notice, member, same⟩ := List.mem_filterMap.mp told
  cases notice <;> cases same
  exact member

/-- Whether a command to run on gets its turn now, and interpreter `i` gets through its set-up with
`m` instructions and executes every instruction. -/
structure RunsOn (course : Nat → Snapshot) (m : Nat) (t : Task) (i : Nat) (c : Control)
    (os : Nat → Occurrence) : Prop where
  granted : (c.momentAt os 0).granted? = some t
  errand : t.errand = .resume
  present : c.present = some i
  setUp : Takes course m
  succeeds : Succeeds course c os i

/-- Whether a stop at a line breakpoint is reported only when the program has been off a line. -/
def LeavesFirst (line : Int) (course : Nat → Snapshot) (m : Nat) (t : Task) (i : Nat) (c : Control)
    (os : Nat → Occurrence) : Prop :=
  ∀ n, Busy t c os (n + 1) → .stop .breakpoint ∈ (c.momentAt os n).acts →
    Off course m line (c.ordered os i n)

section

variable {course : Nat → Snapshot} {m : Nat} {t : Task} {i : Nat} {c : Control}
  {os : Nat → Occurrence} {n : Nat} {line : Int}

/-- What a moment shows in which a decision is carried out, and how the command then stands. -/
structure LeavesAt (course : Nat → Snapshot) (m : Nat) (line : Int) (t : Task) (i : Nat) (c : Control)
    (os : Nat → Occurrence) (n : Nat) : Prop where
  stopped : .stop .breakpoint ∈ (c.momentAt os n).acts → Off course m line (c.ordered os i n)
  goesOn : ∀ turn, (c.during os (n + 1)).turn = some turn → ∃ j stage waiter,
    turn = { task := t, phase := .driving i stage waiter } ∧ c.ordered os i (n + 1) = j + 1 ∧
      ComesFrom course m line j (c.during os (n + 1)).memory stage

theorem leavesAt_of_follow {c' : Control} {now : Millis} {d : Debuggee} {δ : Decision}
    (after : (c.momentAt os n).after = c'.follow now t i d δ)
    (notices : c'.notices = (c.momentAt os n).before.notices)
    (debuggees : c'.debuggees = (c.momentAt os n).before.debuggees)
    (found : c'.debuggees[i]? = some d) (able : (d.execute? now).isSome = true)
    (leaves : δ.Leaves course m line (c.ordered os i n)) : LeavesAt course m line t i c os n := by
  have memory : (c.during os (n + 1)).memory = δ.memory := by
    change (c.momentAt os n).after.memory = _
    rw [after]
    exact (c'.followed now t i d δ).memory
  have state : (c.during os (n + 1)).turn = (c.momentAt os n).after.turn := rfl
  obtain ⟨stage, waiter, next, turn, shown, one⟩ | ⟨-, turn, shown⟩ :=
    acts_of_follow after notices debuggees found fun _ _ => able
  · refine ⟨fun stops => leaves.stopped (stopped_of_mem_acts (.inl shown) stops), fun turn' its => ?_⟩
    rw [state, turn] at its
    cases its
    refine ⟨c.ordered os i n, stage, waiter, rfl, ?_, memory ▸ leaves.goesOn stage next⟩
    exact congrArg (c.ordered os i n + ·) one
  · refine ⟨fun stops => leaves.stopped (stopped_of_mem_acts (i := i) (.inr shown) stops),
      fun turn' its => ?_⟩
    cases turn.symm.trans (state.symm.trans its)

/-- While the instruction is not executed nothing is shown. -/
theorem leavesAt_of_unexecuted {j : Nat} {stage : Stage} {waiter : Monitor.Waiter}
    (turn : (c.during os n).turn = some { task := t, phase := .driving i stage waiter })
    (ordered : c.ordered os i n = j + 1) (comes : ComesFrom course m line j (c.during os n).memory stage)
    (waits : (c.momentAt os n).executed? = none) : LeavesAt course m line t i c os n := by
  obtain ⟨turn', memory, acts, none_⟩ := stays_of_unexecuted (m := c.momentAt os n) turn waits
  replace memory : (c.during os (n + 1)).memory = (c.during os n).memory := memory
  have same : c.ordered os i (n + 1) = c.ordered os i n := congrArg (c.ordered os i n + ·) none_
  refine ⟨fun stops => ?_, fun _ its => ?_⟩
  · rw [acts] at stops
    cases stops
  · cases (turn'.trans turn).symm.trans its
    exact ⟨j, stage, waiter, rfl, same.trans ordered, memory ▸ comes⟩

/-- In each moment of its turn a command decides what leaves the line, or waits. -/
theorem RunsOn.leavesAt (runs : RunsOn course m t i c os)
    (resumes : c.memory.resumeFrom.bind (·.line) = some line) (busy : Busy t c os (n + 1)) :
    LeavesAt course m line t i c os n := by
  induction n with
  | zero =>
      obtain ⟨shows, able⟩ := runs.succeeds.start
      obtain ⟨d, found, -⟩ := Option.map_eq_some_iff.mp shows
      have wanted : t.errand.goal? = some .run := by
        rw [runs.errand]
        rfl
      obtain ⟨now, queue, happening, after⟩ :=
        follow_of_granted (m := c.momentAt os 0) (d := d) runs.granted wanted runs.present found
      obtain ⟨able', same⟩ :=
        view_eq_sight (m := c.momentAt os 0) happening found able shows rfl
      rw [same] at after
      exact leavesAt_of_follow after rfl rfl found able'
        (leaves_lead runs.setUp (Nat.zero_le m) resumes)
  | succ n ih =>
      have before := ih fun k pos le => busy k pos (Nat.lt_succ_of_lt le)
      obtain ⟨turn, its, -⟩ := busy (n + 1) (Nat.succ_pos n) (Nat.lt_succ_self _)
      obtain ⟨j, stage, waiter, rfl, ordered, comes⟩ := before.goesOn turn its
      have lasting := lasting_of_busy (Nat.succ_pos n) busy
      cases executed : (c.momentAt os (n + 1)).executed? with
      | none => exact leavesAt_of_unexecuted its ordered comes executed
      | some executed' =>
          cases executed' with
          | false => exact absurd executed (runs.succeeds.inTime _ lasting)
          | true =>
              obtain ⟨now, d, happening, found, after⟩ :=
                follow_of_executed (m := c.momentAt os (n + 1)) its executed
              obtain ⟨shows, able⟩ := runs.succeeds.shows _ lasting executed
              obtain ⟨able', same⟩ :=
                view_eq_sight (m := c.momentAt os (n + 1)) happening found able shows rfl
              rw [same, ordered] at after
              exact leavesAt_of_follow after rfl rfl found able'
                (ordered ▸ leaves_after runs.setUp comes)

/-- A command to run on does not stop on the line where the last one stopped before it has left it. -/
theorem RunsOn.leavesFirst (runs : RunsOn course m t i c os) {x : Snapshot}
    (resumes : c.memory.resumeFrom = some x.location) (here : x.IsOn line) :
    LeavesFirst line course m t i c os := by
  have from_ : c.memory.resumeFrom.bind (·.line) = some line := by
    rw [resumes]
    exact Snapshot.currentLine?_eq_some.mpr here
  exact fun n busy => (runs.leavesAt from_ busy).stopped

end

/-! ## Stepping -/

/-- What there is to say of a command to step, in a turn that begins now and in which interpreter `i`
gets through its set-up with `m` instructions. -/
structure StepsExactly (granularity : Granularity) (memory : Memory) (course : Nat → Snapshot)
    (m : Nat) (t : Task) (i : Nat) (c : Control) (os : Nat → Occurrence) : Prop where
  /-- If the step takes `n` instructions of its own, and the tear-down takes `r`, the command ends
  after just so many of them. The stop is reported between the two, and the place is remembered; a
  command to run on that comes next does not stop on that line before it has left it. -/
  ends : ∀ n, TakesOwn granularity (fun k => course (m + k)) n →
    ∀ r, Takes (fun j => course (m + n + j)) r →
    ∃ l > 0, Busy t c os l ∧ (c.during os l).turn = none ∧
      (c.during os l).memory = { memory with resumeFrom := some (course (m + n)).location } ∧
      c.actsUntil os l = List.replicate (m + n) (.step i) ++ [.stop .step] ++
        List.replicate r (.step i) ∧
      ∀ l' ≥ l, (∀ k, l ≤ k → k < l' → (c.momentAt os k).granted? = none) →
        ∀ t' course' m', RunsOn course' m' t' i (c.during os l') (fun k => os (l' + k)) →
          ∀ line, (course (m + n)).IsOn line →
            LeavesFirst line course' m' t' i (c.during os l') (fun k => os (l' + k))
  /-- If the tear-down does not end, neither does the command, but the stop is reported all the
  same. -/
  torn : ∀ n, TakesOwn granularity (fun k => course (m + k)) n →
    (∀ j, (course (m + n + j)).state.isBootstrap = true) →
    (∀ l, Busy t c os l) ∧ ∀ r, ∃ l,
      (c.during os l).memory = { memory with resumeFrom := some (course (m + n)).location } ∧
      c.actsUntil os l = List.replicate (m + n) (.step i) ++ [.stop .step] ++
        List.replicate (r + 1) (.step i)
  /-- If the step is never over it goes on for ever, and no stop is reported. -/
  endless : (∀ k, ¬ IsOver granularity (fun k => course (m + k)) k) → Endless t i c os

section

variable {granularity : Granularity} {course : Nat → Snapshot} {t : Task} {i m : Nat} {c : Control}
  {os : Nat → Occurrence} (succeeds : Succeeds course c os i)
  (granted : (c.momentAt os 0).granted? = some t) (errand : t.errand = .step granularity)
  (present : c.present = some i) (setUp : Takes course m)
include succeeds granted errand present setUp

/-- What has been done by the time that `r` instructions of the tear-down are behind. -/
theorem step_torn {n r : Nat} (own : TakesOwn granularity (fun k => course (m + k)) n)
    (through : ∀ j < r, (course (m + n + j)).state.isBootstrap = true) :
    ∃ l > 0, Busy t c os l ∧
      Follows (stepDecisions granularity c.memory course) t i c os l (m + n + r) ∧
      (c.during os l).memory = { c.memory with resumeFrom := some (course (m + n)).location } ∧
      c.actsUntil os l = List.replicate (m + n) (.step i) ++ ([.stop .step] ++
        List.replicate r (.step i) ++
          if (course (m + n + r)).state.isBootstrap then [.step i] else []) := by
  have wanted : t.errand.goal? = some (.step granularity .step) := by
    rw [errand]
    rfl
  have chained := chained_stepDecisions granularity c.memory course
  have halted : stepDecisions granularity c.memory course (m + n) =
      { memory := { c.memory with resumeFrom := some (course (m + n)).location }
        notices := [StopReason.step].map .stopped
        next := (sight {} (course (m + n))).trail } := stepDecisions_over setUp own
  obtain ⟨l, later, busy, follows⟩ := (decides_step granularity course c os).follows_far succeeds
    granted wanted present (stepDecisions_onward setUp own through)
  refine ⟨l, Nat.zero_lt_of_lt later, busy, follows, ?_, ?_⟩
  · rw [follows.memory, chained.trailing halted through]
  · rw [follows.acts, Nat.add_assoc (m + n), List.range_add, List.flatMap_append,
      flatMap_steps (stepDecisions_steps setUp own.1), List.flatMap_map]
    exact congrArg _ (chained.flatMap_torn halted through)

theorem steps_exactly : StepsExactly granularity c.memory course m t i c os := by
  have wanted : t.errand.goal? = some (.step granularity .step) := by
    rw [errand]
    rfl
  have decides := decides_step granularity course c os
  constructor
  · intro n own r tearDown
    obtain ⟨l, pos, busy, follows, memory, acts⟩ :=
      step_torn succeeds granted errand present setUp own tearDown.through
    have past : (course (m + n + r)).state.isBootstrap = false := tearDown.past
    have ended : (c.during os l).turn = none := by
      refine follows.ends ?_
      rw [(chained_stepDecisions ..).trailing (stepDecisions_over setUp own) tearDown.through,
        trail_sight, past]
      rfl
    refine ⟨l, pos, busy, ended, memory, ?_, ?_⟩
    · rw [acts, past, if_neg Bool.false_ne_true, List.append_nil, List.append_assoc]
    · intro l' later quiet t' course' m' runs line here
      obtain ⟨-, same⟩ := rests_during ended later quiet
      refine runs.leavesFirst ?_ here
      rw [same, memory]
  · intro n own torn
    refine ⟨decides.busy_ever succeeds granted wanted present fun l => ?_, fun r => ?_⟩
    · exact stepDecisions_onward (r := l + 1) setUp own (fun j _ => torn j) l (by omega)
    · obtain ⟨l, -, -, -, memory, acts⟩ :=
        step_torn (r := r) succeeds granted errand present setUp own fun j _ => torn j
      refine ⟨l, memory, ?_⟩
      rw [acts, if_pos (torn r), List.replicate_succ', List.append_assoc [_], List.append_assoc]
  · intro never
    exact decides.endless succeeds granted wanted present fun l =>
      stepDecisions_steps (n := l + 1) setUp (fun k _ => never k) l (by omega)

end

/-! ## Off a line -/

/-- A command to step gets its turn. After one instruction the program is still on its line, and after
another one it has been executed. -/
def steppingOff : List Happening :=
  .activity 2000 .grant :: doing 0 2000 [.link .command] ++ ticking 0 3000 6 "CallUpdate" ++
    .activity 3000 .advance :: doing 0 3000 [.link .command] ++ ticking 0 4000 11 "CodeExecuted" ++
    [.activity 4000 .advance]

def stepsOff (n : Nat) : Occurrence := { happening := (steppingOff[n]?).getD (.breakpoints id) }

/-- A program on line 7, as it is after `k` instructions. -/
def onLineSeven (k : Nat) : Snapshot :=
  { state := if k < 2 then .callUpdate else .codeExecuted
    debugInfo := [{ startOffset := -1, endOffset := 5, position := { startLine := 7 } }] }

/-- There is a breakpoint on its line. -/
def stoppedOnLine : Control :=
  { ((opening {} "/" none).run (resuming "CallUpdate")).modifyDebuggee 0 fun d =>
      { d with monitor := { d.monitor with snapshot := onLineSeven 0 } } with
    queue := [{ errand := .step .line }]
    memory := { debug := true }
    breakpoints := { files := [("/p.bbc", [{ id := 1, line := 7, verified := false }])], nextId := 2 } }

/-- The step takes both instructions. -/
theorem steps_exactly_off :
    let c := stoppedOnLine
    Succeeds onLineSeven c stepsOff 0 ∧
      (c.momentAt stepsOff 0).granted? = some { errand := .step .line } ∧ c.present = some 0 ∧
      Takes onLineSeven 0 ∧
      ∃ l > 0, Busy { errand := .step .line } c stepsOff l ∧ (c.during stepsOff l).turn = none ∧
        (c.during stepsOff l).memory.resumeFrom = some { line := some 7, codePointer := -1 } ∧
        c.actsUntil stepsOff l = [.step 0, .step 0, .stop .step] := by
  intro c
  obtain ⟨granted, present, start, finished, ended, executed⟩ :
      (c.momentAt stepsOff 0).granted? = some { errand := .step .line } ∧ c.present = some 0 ∧
        (c.snapshotOf? 0 = some (onLineSeven 0) ∧ (c.momentAt stepsOff 0).able 0 = true) ∧
        (c.during stepsOff steppingOff.length).turn = none ∧
        (c.momentAt stepsOff (steppingOff.length - 1)).executed? ≠ none ∧
        ∀ n < steppingOff.length, (c.momentAt stepsOff n).executed? ≠ some false ∧
          ((c.momentAt stepsOff n).executed? = some true →
            (c.during stepsOff n).snapshotOf? 0 = some (onLineSeven (c.ordered stepsOff 0 n)) ∧
              (c.momentAt stepsOff n).able 0 = true) := by
    decide +kernel
  have early {n : Nat} (lasting : Lasting c stepsOff n) : n < steppingOff.length := by
    by_contra late
    exact lasting.2 _ (by decide) (Nat.not_lt.mp late) finished
  have succeeds : Succeeds onLineSeven c stepsOff 0 :=
    ⟨start, fun n lasting => ⟨_, Nat.le_pred_of_lt (early lasting), ended⟩,
      fun n lasting => (executed n (early lasting)).1,
      fun n lasting => (executed n (early lasting)).2⟩
  have stays {h r : Nat} (none_ : r = 0) : Takes (fun j => onLineSeven (h + j)) r := by
    subst none_
    refine ⟨nofun, ?_⟩
    rw [onLineSeven]
    split <;> rfl
  have setUp : Takes onLineSeven 0 := by simpa using stays (h := 0) rfl
  have exactly := steps_exactly succeeds granted rfl present setUp
  have own : TakesOwn .line (fun k => onLineSeven (0 + k)) 2 := by decide
  obtain ⟨l, first, busy, turn, memory, acts, -⟩ := exactly.ends 2 own 0 (stays rfl)
  exact ⟨succeeds, granted, present, setUp, l, first, busy, turn, by rw [memory]; rfl, acts⟩

end Control

end DebugAdapter
