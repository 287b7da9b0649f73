import DebugAdapter.Proofs.Control.Blocks
import DebugAdapter.Proofs.Interpreter.Script
/-!
# How far a command goes

A program comes to its end when its last step is reported for ever and is one in which it neither
runs nor is being set up or torn down. There no command goes on, except that a step takes its one
instruction even there. So a command is over after as many instructions as there are left, or one
more, whatever the breakpoints and the lines of the program are, provided that every instruction that
it orders is executed.
-/

namespace DebugAdapter

open Interpreter (ScriptedProgram State)
open Monitor (Waiter)

/-! ## Programs that end -/

namespace Interpreter.ScriptedProgram

/-- The index of the last step. -/
def last (p : ScriptedProgram) : Nat := p.steps.length - 1

/-- Whether nothing goes on in the last step of a program. -/
structure Ends (p : ScriptedProgram) : Prop where
  nonempty : p.steps ≠ []
  idle : (p.stepAfter p.last).state.isRunningCode = false
  unattended : (p.stepAfter p.last).state.isBootstrap = false

instance (p : ScriptedProgram) : Decidable p.Ends :=
  decidable_of_iff (p.steps ≠ [] ∧ (p.stepAfter p.last).state.isRunningCode = false ∧
    (p.stepAfter p.last).state.isBootstrap = false)
    ⟨fun ⟨nonempty, idle, unattended⟩ => ⟨nonempty, idle, unattended⟩,
      fun ⟨nonempty, idle, unattended⟩ => ⟨nonempty, idle, unattended⟩⟩

theorem stepAfter_last {p : ScriptedProgram} {n : Nat} (ended : p.last ≤ n) :
    p.stepAfter n = p.stepAfter p.last := by
  rw [last] at ended
  rw [stepAfter, stepAfter, last, Nat.min_eq_right ended, Nat.min_self]

/-- Where something goes on there are steps left. -/
theorem Ends.lt_last {p : ScriptedProgram} (ends : p.Ends) {n : Nat}
    (busy : (p.stepAfter n).state.isRunningCode = true ∨ (p.stepAfter n).state.isBootstrap = true) :
    n < p.last := by
  by_contra ended
  rw [stepAfter_last (Nat.not_lt.mp ended), ends.idle, ends.unattended] at busy
  exact busy.elim nofun nofun

end Interpreter.ScriptedProgram

namespace Control

/-! ## Decisions -/

/-- The instructions that are taken where nothing goes on. -/
def Goal.extra : Goal → Nat
  | .run => 0
  | .step .. => 1

def Stage.extra : Stage → Nat
  | .leading goal => goal.extra
  | .running .. | .stepping .. | .trailing => 0

/-- Whether a decision that is made after `n` instructions leaves no more than `room` of them to be
ordered, this one included. -/
def Decision.Within (p : ScriptedProgram) (n room : Nat) (δ : Decision) : Prop :=
  ∀ stage, δ.next = .execute stage → stage.extra + (p.last - (n + 1)) + 1 ≤ room

namespace View

variable {p : ScriptedProgram} {v : View} {m : Memory} {n : Nat} (ends : p.Ends)
  (shows : v.snapshot.state = (p.stepAfter n).state)
include ends shows

theorem within_trail {memory : Memory} {notices : List Notice} (extra : Nat) :
    Decision.Within p n (extra + (p.last - n)) { memory, notices, next := v.trail } := by
  intro stage next
  have next : v.trail = .execute stage := next
  cases v.trail_trailing next
  unfold trail at next
  split at next
  · rename_i attended
    rw [Bool.and_eq_true, shows] at attended
    have left := ends.lt_last (.inr attended.1)
    simp only [Stage.extra]
    omega
  · cases next

theorem within_run (leaving skipped : Option Int) :
    (v.run m leaving skipped).Within p n (p.last - n) := by
  have trails {memory : Memory} {notices : List Notice} :
      Decision.Within p n (p.last - n) { memory, notices, next := v.trail } := by
    simpa using within_trail ends shows 0
  unfold run
  split
  · rename_i running
    rw [shows] at running
    have left := ends.lt_last (.inl running)
    dsimp only
    split
    · exact trails
    · split
      · rintro stage ⟨⟩
        simp only [Stage.extra]
        omega
      · exact trails
  · exact trails

theorem within_begin (goal : Goal) : (v.begin m goal).Within p n (goal.extra + (p.last - n)) := by
  cases goal with
  | run => simpa [Goal.extra, begin] using within_run ends shows _ _
  | step granularity reason =>
      simp only [begin]
      split
      · rintro stage ⟨⟩
        simp only [Stage.extra, Goal.extra]
        omega
      · exact within_trail ends shows _

theorem within_lead (goal : Goal) : (v.lead m goal).Within p n (goal.extra + (p.last - n)) := by
  unfold lead
  split
  · rename_i attended
    rw [Bool.and_eq_true, shows] at attended
    have left := ends.lt_last (.inr attended.1)
    rintro stage ⟨⟩
    simp only [Stage.extra]
    omega
  · exact within_begin ends shows goal

theorem within_after (stage : Stage) :
    (v.after m true stage).Within p n (stage.extra + (p.last - n)) := by
  cases stage with
  | leading goal => exact within_lead ends shows goal
  | running leaving skipped => simpa [Stage.extra, after] using within_run ends shows leaving skipped
  | stepping reason origin =>
      simp only [after, Bool.true_and]
      split
      · rename_i goesOn
        -- Only a running program goes on along a line.
        have running : (p.stepAfter n).state.isRunningCode = true := by
          rw [Bool.and_eq_true] at goesOn
          rw [← shows]
          have stays := goesOn.1
          unfold staysOn at stays
          split at stays
          · rw [Bool.and_eq_true] at stays
            exact stays.1
          · cases stays
        have left := ends.lt_last (.inl running)
        rintro stage ⟨⟩
        simp only [Stage.extra]
        omega
      · exact within_trail ends shows _
  | trailing => exact within_trail ends shows _

end View

/-! ## Waits -/

/-- Whether the wait for an executed instruction ends in a moment, and if so, whether the instruction
was executed. -/
def Moment.executed? (m : Moment) : Option Bool :=
  match m.happening, m.before.turn with
  | .activity now .advance, some { phase := .driving i _ waiter, .. } =>
    (m.before.debuggees[i]?).bind fun d =>
      if d.monitor.hasRefreshed waiter then some true
      else if waiter.due ≤ now then some false else none
  | _, _ => none

section

variable {m : Moment} {t : Task} {i : Nat} {stage : Stage} {waiter : Waiter}
  (turn : m.before.turn = some { task := t, phase := .driving i stage waiter })
include turn

/-- When the wait ends, the task decides what comes next. -/
theorem follow_of_executed {executed : Bool} (ended : m.executed? = some executed) :
    ∃ now d, m.happening = .activity now .advance ∧ m.before.debuggees[i]? = some d ∧ m.after =
      m.before.follow now t i d ((m.before.view d now).after m.before.memory executed stage) := by
  unfold Moment.executed? at ended
  split at ended
  · rename_i now task j stage' waiter' happening turn'
    cases turn.symm.trans turn'
    obtain ⟨d, found, ended⟩ := Option.bind_eq_some_iff.mp ended
    refine ⟨now, d, happening, found, ?_⟩
    rw [Moment.after, happening]
    simp only [happen, perform?, advance?, turn, found, Option.bind_eq_bind, Option.bind_some]
    split at ended
    · rename_i refreshed
      cases ended
      rw [if_pos refreshed]
      rfl
    · rename_i late
      split at ended
      · rename_i due
        cases ended
        rw [if_neg late, if_pos due]
        rfl
      · cases ended
  · cases ended

/-- Otherwise its turn goes on, and nothing is done. -/
theorem stays_of_unexecuted (waits : m.executed? = none) :
    m.after.turn = m.before.turn ∧ m.after.memory = m.before.memory ∧ m.acts = [] ∧
      m.orders i = 0 := by
  have stride := m.before.happen_stride m.happening
  change Stride m.before m.happening m.after at stride
  generalize after : m.after = c' at stride ⊢
  generalize happening : m.happening = h at stride
  have rests (new : List Notice) (notices : c'.notices = m.before.notices ++ new)
      (silent : new.filterMap Notice.reason? = [])
      (orders : ∀ j, c'.orders j ≤ m.before.orders j) : m.acts = [] ∧ m.orders i = 0 := by
    constructor
    · rw [acts_of_unordered new (after ▸ notices) (after ▸ orders), silent]
      rfl
    · rw [Moment.orders, after]
      exact Nat.sub_eq_zero_of_le (orders i)
  cases stride with
  | aside new aside notices outputs =>
      refine ⟨aside.turn, aside.memory, rests new notices ?_ aside.undriven.orders⟩
      rw [List.filterMap_eq_nil_iff]
      intro n member
      obtain ⟨g, s, rfl⟩ := outputs n member
      rfl
  | closed aside _ _ _ notices =>
      exact ⟨aside.turn, aside.memory, rests [.ended] notices rfl aside.undriven.orders⟩
  | request | ask =>
      exact ⟨rfl, rfl, rests [] (List.append_nil _).symm rfl fun _ => Nat.le_refl _⟩
  | launch idle | nobody idle | pursue idle => cases turn.symm.trans idle
  | install turn' | giveUp turn' | release turn' | enter turn' => cases turn.symm.trans turn'
  | @drive _ now _ _ d _ _ _ turn' found _ _ advanced decided waited =>
      cases turn.symm.trans turn'
      rw [Moment.executed?, happening, advanced, turn] at waits
      simp only [found, Option.bind_some] at waits
      obtain refreshed | due := waited
      · rw [if_pos refreshed] at waits
        cases waits
      · rw [if_pos due] at waits
        split at waits <;> cases waits

end

/-- A task that gets its turn decides where to begin. -/
theorem follow_of_granted {m : Moment} {t : Task} {goal : Goal} {i : Nat} {d : Debuggee}
    (granted : m.granted? = some t) (wanted : t.errand.goal? = some goal)
    (present : m.before.present = some i) (found : m.before.debuggees[i]? = some d) :
    ∃ now queue, m.happening = .activity now .grant ∧
      m.after = ({ m.before with queue } : Control).follow now t i d
        ((m.before.view d now).lead m.before.memory goal) := by
  obtain ⟨now, queue, happening, -, -, after⟩ := Moment.granted?_eq granted
  refine ⟨now, queue, happening, ?_⟩
  have pursues : m.after = ({ m.before with queue } : Control).pursuePresent now t goal := by
    rw [after]
    cases errand : t.errand with
    | start => rw [errand] at wanted; cases wanted
    | resume | step =>
        rw [errand] at wanted
        cases wanted
        rw [begin, errand]
  have found' : ({ m.before with queue } : Control).debuggee? = some d := by
    rw [debuggee?, present]
    exact found
  have present' : ({ m.before with queue } : Control).present = some i := present
  rw [pursues, pursuePresent, present', found']
  rfl

/-! ## Turns -/

/-- How many instructions interpreter `i` has been told to execute in the first `n` moments. -/
def ordered (c : Control) (os : Nat → Occurrence) (i : Nat) : Nat → Nat
  | 0 => 0
  | n + 1 => c.ordered os i n + (c.momentAt os n).orders i

/-- Whether the turn that is granted in the first moment is not over before the `n`th. -/
def Lasting (c : Control) (os : Nat → Occurrence) (n : Nat) : Prop :=
  0 < n ∧ ∀ k, 0 < k → k ≤ n → (c.during os k).turn ≠ none

/-- Whether interpreter `i`, which is at some step of a program when a turn begins, executes every
instruction that is ordered in that turn, so that it is then known to be at the step after it. -/
structure Executes (p : ScriptedProgram) (position : Nat) (c : Control) (os : Nat → Occurrence)
    (i : Nat) : Prop where
  ends : ∀ n, Lasting c os n → ∃ k ≥ n, (c.momentAt os k).executed? ≠ none
  inTime : ∀ n, Lasting c os n → (c.momentAt os n).executed? ≠ some false
  shows : ∀ n, Lasting c os n → (c.momentAt os n).executed? = some true →
    (c.during os n).state? i = some (p.stepAfter (position + c.ordered os i n)).state

/-- A command is being carried out, and no more than `room` instructions are ordered in all. -/
def Underway (p : ScriptedProgram) (position : Nat) (t : Task) (i room : Nat) (c : Control)
    (ordered : Nat) : Prop :=
  ∃ stage waiter, c.turn = some { task := t, phase := .driving i stage waiter } ∧
    stage.extra + (p.last - (position + ordered)) + ordered ≤ room

section

variable {p : ScriptedProgram} {position : Nat} {t : Task} {i room : Nat}

/-- A decision that leaves room is carried out. -/
theorem underway_follow {m : Moment} {c : Control} {now : Millis} {d : Debuggee} {δ : Decision}
    (ordered : Nat) (after : m.after = c.follow now t i d δ)
    (debuggees : c.debuggees = m.before.debuggees) (found : c.debuggees[i]? = some d)
    {left : Nat} (within : δ.Within p (position + ordered) left) (le : left + ordered ≤ room) :
    (m.after.turn = none ∧ m.orders i = 0) ∨
      (Underway p position t i room m.after (ordered + 1) ∧ m.orders i = 1) := by
  obtain ⟨stage, waiter, next, turn, orders⟩ | ⟨turn, -, orders⟩ :=
    orders_of_follow after debuggees found
  · have fits := within stage next
    refine .inr ⟨⟨stage, waiter, turn, ?_⟩, (orders i).trans (if_pos rfl)⟩
    rw [← Nat.add_assoc position ordered 1]
    omega
  · exact .inl ⟨turn, orders i⟩

variable {c : Control} {os : Nat → Occurrence}

theorem underway_first (ends : p.Ends) {goal : Goal}
    (granted : (c.momentAt os 0).granted? = some t) (wanted : t.errand.goal? = some goal)
    (present : c.present = some i) (here : c.state? i = some (p.stepAfter position).state) :
    ((c.during os 1).turn = none ∧ c.ordered os i 1 = 0) ∨
      (Underway p position t i (goal.extra + (p.last - position)) (c.during os 1) 1 ∧
        c.ordered os i 1 = 1) := by
  have ordered : c.ordered os i 1 = (c.momentAt os 0).orders i := Nat.zero_add _
  obtain ⟨d, found, state⟩ := Option.map_eq_some_iff.mp here
  obtain ⟨now, queue, -, after⟩ := follow_of_granted granted wanted present found
  rw [ordered]
  exact underway_follow 0 after rfl found (View.within_lead ends state goal) (Nat.le_refl _)

theorem underway_next (ends : p.Ends) (executes : Executes p position c os i) {n : Nat}
    (lasting : Lasting c os n)
    (underway : Underway p position t i room (c.during os n) (c.ordered os i n)) :
    ((c.during os (n + 1)).turn = none ∧ c.ordered os i (n + 1) = c.ordered os i n) ∨
      Underway p position t i room (c.during os (n + 1)) (c.ordered os i (n + 1)) ∧
        ((c.momentAt os n).executed? ≠ none → c.ordered os i (n + 1) = c.ordered os i n + 1) := by
  let m := c.momentAt os n
  have ordered : c.ordered os i (n + 1) = c.ordered os i n + m.orders i := rfl
  obtain ⟨stage, waiter, turn, room_⟩ := underway
  cases waits : m.executed? with
  | none =>
      obtain ⟨turn', -, -, none_⟩ := stays_of_unexecuted turn waits
      rw [ordered, none_]
      exact .inr ⟨⟨stage, waiter, turn'.trans turn, room_⟩, fun some_ => absurd rfl some_⟩
  | some executed =>
      have inTime : executed = true := by
        cases executed with
        | true => rfl
        | false => exact absurd waits (executes.inTime n lasting)
      subst inTime
      obtain ⟨now, d, -, found, after⟩ := follow_of_executed turn waits
      have state : d.snapshot.state = (p.stepAfter (position + c.ordered os i n)).state :=
        Option.some.inj ((state?_eq found).symm.trans (executes.shows n lasting waits))
      have decided := View.within_after (v := m.before.view d now) (m := m.before.memory) ends state
        stage
      obtain ⟨turn', none_⟩ | ⟨underway, one⟩ :=
        underway_follow (c.ordered os i n) after rfl found decided room_
      · exact .inl ⟨turn', by rw [ordered, none_]; rfl⟩
      · rw [ordered, one]
        exact .inr ⟨underway, fun _ => rfl⟩

end

/-- A program that is over after one instruction. -/
def oneUpdate : ScriptedProgram :=
  { steps := [.inState .callUpdate 0, .inState .codeExecuted 1] }

/-- A command to run on gets its turn, and the interpreter executes an instruction. -/
def finishingOne (n : Nat) : Occurrence :=
  { happening := ((.activity 2000 .grant :: finishing)[n]?).getD (.breakpoints id) }

end Control

end DebugAdapter
