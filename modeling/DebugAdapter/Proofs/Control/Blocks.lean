import DebugAdapter.Proofs.Control.EntryStop
import DebugAdapter.Proofs.Control.Moments
import DebugAdapter.Proofs.Control.Resumption
/-!
# One command at a time

Commands are given and ask for their turn whenever they like, and while one is carried out
everything else goes on. But from the moment in which a command gets its turn until the next one
does, every stop that is reported and every instruction that an interpreter is told to execute is its
own. What is reported and ordered in a run therefore falls into blocks, one for each command.
-/

namespace DebugAdapter

open Monitor (Waiter)

theorem Debuggee.stepOrders_execute {d d' : Debuggee} {now : Millis} {w : Waiter}
    (executed : d.execute? now = some (w, d')) : d'.stepOrders = d.stepOrders + 1 := by
  simp only [execute?, send?, Channel.Link.send?] at executed
  split at executed
  · cases executed
  · split at executed <;> cases executed
    simp [stepOrders]

namespace Control

/-! ## What a command reports -/

/-- What is still to be reported. -/
inductive Aim where
  /-- A stop at a breakpoint, if the program comes to one. -/
  | halt
  /-- A stop for this reason. -/
  | stop (reason : StopReason)
  | nothing

/-- Whether a stop for this reason may be reported. -/
def Aim.Allows : Aim → StopReason → Prop
  | .halt, r => r = .breakpoint ∨ r = .instructionBreakpoint
  | .stop reason, r => r = reason
  | .nothing, _ => False

def Goal.aim : Goal → Aim
  | .run => .halt
  | .step _ reason => .stop reason

def Stage.aim : Stage → Aim
  | .leading goal => goal.aim
  | .running .. => .halt
  | .stepping reason _ => .stop reason
  | .trailing => .nothing

def Next.aim : Next → Aim
  | .execute stage => stage.aim
  | .finished => .nothing

/-- What a command is to report: a start only if the program has to stop on entry. -/
def Errand.aim : Errand → Aim
  | .start _ true true => .stop .entry
  | .start .. => .nothing
  | .resume => .halt
  | .step _ => .stop .step

theorem Errand.aim_of_goal {e : Errand} {goal : Goal} (wanted : e.goal? = some goal) :
    goal.aim = e.aim := by
  cases e with
  | start => cases wanted
  | resume | step => cases wanted; rfl

/-- The stop that a notice reports. -/
def Notice.reason? : Notice → Option StopReason
  | .stopped reason => some reason
  | .output .. | .ended => none

def Decision.reasons (δ : Decision) : List StopReason := δ.notices.filterMap Notice.reason?

/-- What has been reported for an aim, and what is left to be reported. -/
inductive Reported (aim : Aim) : Aim → List StopReason → Prop
  | pending : Reported aim aim []
  | met {r : StopReason} (allowed : aim.Allows r) : Reported aim .nothing [r]
  | waived (optional : ∀ r, aim ≠ .stop r) : Reported aim .nothing []

theorem Reported.trans {aim rest rest' : Aim} {rs rs' : List StopReason}
    (first : Reported aim rest rs) (second : Reported rest rest' rs') :
    Reported aim rest' (rs ++ rs') := by
  cases first with
  | pending => exact second
  | met allowed =>
      cases second with
      | pending | waived => exact .met allowed
      | met never => exact never.elim
  | waived optional =>
      cases second with
      | pending | waived => exact .waived optional
      | met never => exact never.elim

namespace View

variable (v : View) (m : Memory)

theorem aim_trail : v.trail.aim = .nothing := by
  unfold trail
  split <;> rfl

theorem reported_run (leaving skipped : Option Int) :
    Reported .halt (v.run m leaving skipped).next.aim (v.run m leaving skipped).reasons := by
  unfold run
  split
  · dsimp only
    split
    · rename_i reason stops
      rw [aim_trail]
      refine .met ?_
      unfold stopReason? at stops
      simp only at stops
      repeat' split at stops
      all_goals cases stops
      · exact .inr rfl
      · exact .inl rfl
    · split
      · exact .pending
      · rw [aim_trail]
        exact .waived nofun
  · rw [aim_trail]
    exact .waived nofun

theorem reported_arrive (reason : StopReason) :
    Reported (.stop reason) (v.arrive m reason).next.aim (v.arrive m reason).reasons := by
  rw [arrive, aim_trail]
  exact .met rfl

theorem reported_begin (goal : Goal) :
    Reported goal.aim (v.begin m goal).next.aim (v.begin m goal).reasons := by
  cases goal with
  | run => exact v.reported_run _ _ _
  | step granularity reason =>
      simp only [begin]
      split
      · exact .pending
      · exact v.reported_arrive m reason

theorem reported_lead (goal : Goal) :
    Reported goal.aim (v.lead m goal).next.aim (v.lead m goal).reasons := by
  unfold lead
  split
  · exact .pending
  · exact v.reported_begin m goal

theorem reported_after (executed : Bool) (stage : Stage) :
    Reported stage.aim (v.after m executed stage).next.aim (v.after m executed stage).reasons := by
  cases stage with
  | leading goal =>
      simp only [after]
      split
      · exact v.reported_lead m goal
      · exact v.reported_begin m goal
  | running leaving skipped =>
      simp only [after]
      split
      · exact v.reported_run m _ _
      · rw [aim_trail]
        exact .waived (by simp [Stage.aim])
  | stepping reason origin =>
      simp only [after]
      split
      · exact .pending
      · exact v.reported_arrive m reason
  | trailing =>
      cases executed with
      | true =>
          change Reported .nothing v.trail.aim []
          rw [aim_trail]
          exact .pending
      | false => exact .pending

variable {v m}

theorem begin_unable (unable : v.able = false) (goal : Goal) :
    (v.begin m goal).next = .finished := by
  have led := lead_unable (m := m) unable goal
  rwa [lead, unable, Bool.and_false, if_neg Bool.false_ne_true] at led

theorem able_of_lead {goal : Goal} {stage : Stage} (next : (v.lead m goal).next = .execute stage) :
    v.able = true := by
  by_contra unable
  rw [Bool.not_eq_true] at unable
  cases (lead_unable unable goal).symm.trans next

theorem able_of_after {executed : Bool} {stage stage' : Stage}
    (next : (v.after m executed stage).next = .execute stage') : v.able = true := by
  by_contra unable
  rw [Bool.not_eq_true] at unable
  have finished : (v.after m executed stage).next = .finished := by
    cases executed with
    | true => exact after_unable unable stage
    | false =>
        cases stage with
        | leading goal => exact begin_unable unable goal
        | running | stepping => exact trail_unable unable
        | trailing => rfl
  cases finished.symm.trans next

end View

/-! ## What happens in a moment -/

/-- What a task shows of itself. -/
inductive Act where
  /-- It reports that the program stopped. -/
  | stop (reason : StopReason)
  /-- It tells an interpreter to execute an instruction. -/
  | step (i : Nat)
deriving DecidableEq

namespace Act

def reason? : Act → Option StopReason
  | stop reason => some reason
  | step _ => none

def interpreter? : Act → Option Nat
  | stop _ => none
  | step i => some i

end Act

/-- The stops that are reported in a moment, and then the instructions that are ordered. -/
def Moment.acts (m : Moment) : List Act :=
  (m.notices.filterMap Notice.reason?).map .stop ++
    (List.range m.after.debuggees.length).flatMap fun i => List.replicate (m.orders i) (.step i)

variable {c c' : Control} {m : Moment}

theorem acts_of_unordered (new : List Notice)
    (notices : m.after.notices = m.before.notices ++ new)
    (orders : ∀ i, m.after.orders i ≤ m.before.orders i) :
    m.acts = (new.filterMap Notice.reason?).map .stop := by
  have none_ : ((List.range m.after.debuggees.length).flatMap fun i =>
      List.replicate (m.orders i) (Act.step i)) = [] := by
    refine List.flatMap_eq_nil_iff.mpr fun i _ => ?_
    rw [Moment.orders, Nat.sub_eq_zero_of_le (orders i), List.replicate_zero]
  rw [Moment.acts, none_, List.append_nil, Moment.notices, noted_eq notices]

theorem flatMap_only {α : Type} {n i : Nat} (inside : i < n) (a : Nat → α) :
    ((List.range n).flatMap fun j => List.replicate (if j = i then 1 else 0) (a j)) = [a i] := by
  induction n with
  | zero => cases inside
  | succ n ih =>
      rw [List.range_succ, List.flatMap_append, List.flatMap_singleton]
      obtain rfl | earlier := Nat.eq_or_lt_of_le (Nat.lt_succ_iff.mp inside)
      · have none_ : ((List.range i).flatMap fun j =>
            List.replicate (if j = i then 1 else 0) (a j)) = [] := by
          refine List.flatMap_eq_nil_iff.mpr fun j member => ?_
          rw [if_neg (List.mem_range.mp member).ne, List.replicate_zero]
        rw [none_, if_pos rfl]
        rfl
      · rw [ih earlier, if_neg earlier.ne']
        rfl

/-- When a decision is carried out, an instruction is ordered and the turn goes on, or neither. -/
theorem orders_of_follow {now : Millis} {t : Task} {i : Nat} {d : Debuggee} {δ : Decision}
    (after : m.after = c.follow now t i d δ) (debuggees : c.debuggees = m.before.debuggees)
    (found : c.debuggees[i]? = some d) :
    (∃ stage waiter, δ.next = .execute stage ∧
        m.after.turn = some { task := t, phase := .driving i stage waiter } ∧
        ∀ j, m.orders j = if j = i then 1 else 0) ∨
      m.after.turn = none ∧ (δ.next = .finished ∨ d.execute? now = none) ∧ ∀ j, m.orders j = 0 := by
  have same (j : Nat) : m.before.orders j = c.orders j := by rw [orders, orders, debuggees]
  obtain ⟨stage, waiter, d', next, executed, followed⟩ | finished := c.follow_cases now t i d δ
  · have after' := after.trans followed
    refine .inl ⟨stage, waiter, next, by rw [after'], fun j => ?_⟩
    have debuggees' : m.after.debuggees = c.debuggees.modify i fun _ => d' := by rw [after']; rfl
    rw [Moment.orders, same, orders, orders, debuggees', List.getElem?_modify]
    by_cases here : i = j
    · subst here
      simp [found, Debuggee.stepOrders_execute executed]
    · simp [here, Ne.symm here]
  · have after' := after.trans finished
    refine .inr ⟨by rw [after']; rfl, ?_, fun j => ?_⟩
    · cases next : δ.next with
      | finished => exact .inl rfl
      | execute stage =>
          refine .inr (Option.eq_none_iff_forall_ne_some.mpr ?_)
          rintro ⟨waiter, d'⟩ executed
          -- Then the turn would have gone on.
          rw [follow] at finished
          simp only [next, executed] at finished
          cases congrArg turn finished
    · rw [Moment.orders, same, after']
      exact Nat.sub_self _

/-- What a decision that is carried out shows. -/
theorem acts_of_follow {now : Millis} {t : Task} {i : Nat} {d : Debuggee} {δ : Decision}
    (after : m.after = c.follow now t i d δ) (notices : c.notices = m.before.notices)
    (debuggees : c.debuggees = m.before.debuggees) (found : c.debuggees[i]? = some d)
    (able : ∀ stage, δ.next = .execute stage → (d.execute? now).isSome = true) :
    (∃ stage waiter, δ.next = .execute stage ∧
        m.after.turn = some { task := t, phase := .driving i stage waiter } ∧
        m.acts = δ.reasons.map .stop ++ [.step i] ∧ m.orders i = 1) ∨
      δ.next = .finished ∧ m.after.turn = none ∧ m.acts = δ.reasons.map .stop := by
  have noted : m.notices = δ.notices := by
    refine noted_eq ?_
    rw [after, (c.followed now t i d δ).notices, notices]
  obtain ⟨stage, waiter, next, turn, orders⟩ | ⟨turn, ended, orders⟩ :=
    orders_of_follow after debuggees found
  · have inside : i < m.after.debuggees.length := by
      obtain ⟨inside, -⟩ := List.getElem?_eq_some_iff.mp found
      rwa [after, length_follow]
    refine .inl ⟨stage, waiter, next, turn, ?_, (orders i).trans (if_pos rfl)⟩
    simp only [Moment.acts, noted, orders]
    rw [flatMap_only inside Act.step]
    rfl
  · refine .inr ⟨?_, turn, ?_⟩
    · cases next : δ.next with
      | finished => rfl
      | execute stage =>
          obtain finished | unable := ended
          · cases finished.symm.trans next
          · rw [unable] at able
            cases able stage next
    · simp only [Moment.acts, noted, orders, List.replicate_zero]
      rw [List.flatMap_eq_nil_iff.mpr fun _ _ => rfl, List.append_nil]
      rfl

/-- What a decision leads to when it is carried out. -/
inductive Pursuit (aim : Aim) (t : Task) (i : Nat) : Option Turn → List Act → Prop
  | ends {rs : List StopReason} (reported : Reported aim .nothing rs) :
      Pursuit aim t i none (rs.map .stop)
  | goesOn {rs : List StopReason} {stage : Stage} {waiter : Waiter}
      (reported : Reported aim stage.aim rs) :
      Pursuit aim t i (some { task := t, phase := .driving i stage waiter })
        (rs.map .stop ++ [.step i])

/-- A decision that is made for an aim is carried out. -/
theorem pursuit_follow {aim : Aim} {now : Millis} {t : Task} {i : Nat} {d : Debuggee} {δ : Decision}
    (after : m.after = c.follow now t i d δ) (notices : c.notices = m.before.notices)
    (debuggees : c.debuggees = m.before.debuggees) (found : c.debuggees[i]? = some d)
    (reported : Reported aim δ.next.aim δ.reasons)
    (able : ∀ stage, δ.next = .execute stage → (d.execute? now).isSome = true) :
    Pursuit aim t i m.after.turn m.acts := by
  obtain ⟨stage, waiter, next, turn, acts, -⟩ | ⟨finished, turn, acts⟩ :=
    acts_of_follow after notices debuggees found able
  · rw [acts, turn]
    rw [next] at reported
    exact .goesOn reported
  · rw [acts, turn]
    rw [finished] at reported
    exact .ends reported

/-- What happens in a moment in which no task gets its turn. -/
inductive Continuation (m : Moment) : Prop
  | stays (turn : m.after.turn = m.before.turn) (acts : m.acts = [])
  /-- A start goes on waiting, or ends. -/
  | waits {t : Task} {i : Nat} {phase : Phase}
      (turn : m.before.turn = some { task := t, phase })
      (first : (∃ due, phase = .status i due) ∨ phase = .code i)
      (turn' : m.after.turn = none ∨ m.after.turn = some { task := t, phase := .code i })
      (acts : m.acts = [])
  | enters {t : Task} {i : Nat} (turn : m.before.turn = some { task := t, phase := .code i })
      (advanced : ∃ now, m.happening = .activity now .advance)
      (pursuit : Pursuit t.errand.aim t i m.after.turn m.acts)
  | drives {t : Task} {i : Nat} {stage : Stage} {waiter : Waiter}
      (turn : m.before.turn = some { task := t, phase := .driving i stage waiter })
      (advanced : ∃ now, m.happening = .activity now .advance)
      (pursuit : Pursuit stage.aim t i m.after.turn m.acts)

theorem continuation (sound : m.before.Sound) (ungranted : m.granted? = none) :
    Continuation m := by
  have queue := Moment.queue_of_ungranted ungranted
  have stride := m.before.happen_stride m.happening
  change Stride m.before m.happening m.after at stride
  -- A turn is granted to the first in the queue, which then leaves it.
  have leaves {t : Task} {queue' : List Task} (first : m.before.queue = t :: queue')
      (rest : m.after.queue = queue') : False := by
    rw [first, rest] at queue
    exact absurd queue.length_le (by simp)
  have silent {c' : Control} (after : m.after = c') (notices : c'.notices = m.before.notices)
      (debuggees : c'.debuggees = m.before.debuggees) : m.acts = [] := by
    refine acts_of_unordered [] (by rw [after, notices, List.append_nil]) fun i => ?_
    rw [after, orders, orders, debuggees]
  generalize after : m.after = c' at stride
  generalize happening : m.happening = h at stride
  cases stride with
  | aside new aside notices outputs =>
      subst after
      refine .stays aside.turn ?_
      rw [acts_of_unordered _ notices aside.undriven.orders, List.map_eq_nil_iff,
        List.filterMap_eq_nil_iff]
      intro n member
      obtain ⟨g, s, rfl⟩ := outputs n member
      rfl
  | closed aside _ _ _ notices =>
      subst after
      refine .stays aside.turn ?_
      rw [acts_of_unordered _ notices aside.undriven.orders]
      rfl
  | request => exact .stays (by rw [after]; rfl) (silent after rfl rfl)
  | ask => exact .stays (by rw [after]) (silent after rfl rfl)
  | @launch _ now t queue' program _ debug _ first _ =>
      refine (leaves first ?_).elim
      rw [after]
      obtain ⟨e, launched⟩ | ⟨due, launched⟩ :=
        ({ m.before with queue := queue' } : Control).launch_cases now t program debug
      · rw [launched]
        exact ({ m.before with queue := queue' } : Control).terminate_same.2.2.2
      · rw [launched]
        exact ({ m.before with queue := queue' } : Control).terminate_same.2.2.2
  | nobody _ first =>
      refine (leaves first ?_).elim
      rw [after]
      rfl
  | pursue _ first =>
      refine (leaves first ?_).elim
      rw [after, (followed ..).queue]
  | @install _ t i due turn =>
      unfold install at after
      split at after
      · exact .waits turn (.inl ⟨due, rfl⟩) (.inr (by rw [after])) (silent after rfl rfl)
      · exact .waits turn (.inl ⟨due, rfl⟩) (.inl (by rw [after]; rfl)) (silent after rfl rfl)
  | @giveUp _ t i due e turn =>
      refine .waits turn (.inl ⟨due, rfl⟩) (.inl (by rw [after]; rfl)) ?_
      rw [acts_of_unordered [.output .important e.message, .ended] (by rw [after]; rfl)]
      · rfl
      · rw [after]
        exact (aside_modify m.before i _ fun d _ => d.wanes_dispose).undriven.orders
  | release turn => exact .waits turn (.inr rfl) (.inl (by rw [after]; rfl)) (silent after rfl rfl)
  | @enter _ now t i d δ program debug turn errand found _ advanced decided =>
      obtain ⟨-, program', stopOnEntry, errand'⟩ := sound.attends _ turn
      have aim : t.errand.aim = .stop .entry := by
        cases errand.symm.trans errand'
        rw [errand]
        rfl
      refine .enters turn ⟨now, happening.trans advanced⟩ (pursuit_follow after rfl rfl found ?_ ?_)
      · rw [aim, decided]
        exact View.reported_lead _ _ (.step .instruction .entry)
      · intro stage next
        rw [decided] at next
        exact View.able_of_lead next
  | @drive _ now t i d δ stage waiter turn found _ _ advanced decided =>
      refine .drives turn ⟨now, happening.trans advanced⟩ (pursuit_follow after rfl rfl found ?_ ?_)
      · rw [decided]
        exact View.reported_after _ _ _ _
      · intro stage' next
        rw [decided] at next
        exact View.able_of_after next

/-- What happens when a task gets its turn. -/
inductive Beginning (m : Moment) (t : Task) : Prop
  /-- A start waits for a new interpreter, or has failed. -/
  | starts (start : t.errand.isStart = true)
      (turn : m.after.turn = none ∨ ∃ due, m.after.turn =
        some { task := t, phase := .status m.before.debuggees.length due })
      (acts : m.acts = [])
  | nobody (other : t.errand.isStart = false) (nobody : m.before.debuggee? = none)
      (turn : m.after.turn = none) (acts : m.acts = [])
  | pursues {i : Nat} (other : t.errand.isStart = false) (present : m.before.present = some i)
      (pursuit : Pursuit t.errand.aim t i m.after.turn m.acts)

theorem beginning {t : Task} (granted : m.granted? = some t) : Beginning m t := by
  obtain ⟨now, queue, happening, idle, first, after⟩ := Moment.granted?_eq granted
  let c : Control := { m.before with queue }
  have pursues {goal : Goal} (wanted : t.errand.goal? = some goal)
      (after : m.after = c.pursuePresent now t goal) : Beginning m t := by
    have other : t.errand.isStart = false := by
      cases errand : t.errand with
      | start => rw [errand] at wanted; cases wanted
      | resume | step => rfl
    unfold pursuePresent at after
    split at after
    · rename_i i d present found
      have present' : m.before.present = some i := present
      have found' : c.debuggees[i]? = some d := by rwa [debuggee?, present] at found
      refine .pursues other present' (pursuit_follow after rfl rfl found' ?_ ?_)
      · rw [← Errand.aim_of_goal wanted]
        exact View.reported_lead _ _ goal
      · exact fun stage next => View.able_of_lead next
    · rename_i absent
      have nobody : m.before.debuggee? = none := by
        change c.debuggee? = none
        cases found : c.debuggee? with
        | none => rfl
        | some d =>
            obtain ⟨i, present, -⟩ := Option.bind_eq_some_iff.mp found
            exact absurd found (absent i d present)
      refine .nobody other nobody (by rw [after]; rfl) ?_
      refine acts_of_unordered [] (by rw [after, List.append_nil]; rfl) fun j => ?_
      rw [after]
      exact Nat.le_refl _
  cases errand : t.errand with
  | resume => exact pursues (by rw [errand]; rfl) (by rw [after, begin, errand])
  | step => exact pursues (by rw [errand]; rfl) (by rw [after, begin, errand])
  | start program stopOnEntry debug =>
      have launched : m.after = c.launch now t program debug := by rw [after, begin, errand]
      have notices : (c.prepared program debug).notices = m.before.notices :=
        terminate_notices c
      have orders (i : Nat) : m.after.orders i ≤ m.before.orders i := by
        rw [launched]
        exact orders_launch c now t program debug
      have start : t.errand.isStart = true := by rw [errand]; rfl
      obtain ⟨e, failed⟩ | ⟨due, waits⟩ := c.launch_cases now t program debug
      · have after := launched.trans failed
        refine .starts start (.inl (by rw [after]; rfl)) ?_
        rw [acts_of_unordered [.output .important e.message, .ended]
          (by rw [after, ← notices]; rfl) orders]
        rfl
      · have after := launched.trans waits
        have length := (undriven_prepared c program debug).length
        refine .starts start (.inr ⟨due, by rw [after, ← length]⟩) ?_
        exact acts_of_unordered [] (by rw [after, List.append_nil]; exact notices) orders

/-! ## Blocks -/

/-- The stops that are reported among some acts. -/
def stops (as : List Act) : List StopReason := as.filterMap Act.reason?

/-- The interpreters that are told to execute an instruction. -/
def driven (as : List Act) : List Nat := as.filterMap Act.interpreter?

theorem stops_append (as as' : List Act) : stops (as ++ as') = stops as ++ stops as' :=
  List.filterMap_append

theorem driven_append (as as' : List Act) : driven (as ++ as') = driven as ++ driven as' :=
  List.filterMap_append

theorem stops_map (rs : List StopReason) : stops (rs.map .stop) = rs := by
  simp [stops, List.filterMap_map, Function.comp_def, Act.reason?]

theorem driven_map (rs : List StopReason) : driven (rs.map .stop) = [] := by
  simp [driven, List.filterMap_map, Function.comp_def, Act.interpreter?]

/-- The interpreter that a command is about: a new one for a start, and else the present one. -/
def Moment.target? (m : Moment) (t : Task) : Option Nat :=
  if t.errand.isStart then some m.before.debuggees.length else m.before.present

/-- How far a command has come that is about an interpreter, if it has one. -/
inductive Carried (t : Task) (target : Option Nat) : Option Turn → List Act → Prop
  | waits {i : Nat} {phase : Phase} (first : (∃ due, phase = .status i due) ∨ phase = .code i)
      (start : t.errand.isStart = true) (here : target = some i) :
      Carried t target (some { task := t, phase }) []
  | drives {i : Nat} {stage : Stage} {waiter : Waiter} {as : List Act} (here : target = some i)
      (only : ∀ j ∈ driven as, j = i) (reported : Reported t.errand.aim stage.aim (stops as)) :
      Carried t target (some { task := t, phase := .driving i stage waiter }) as
  | ends {i : Nat} {as : List Act} (here : target = some i) (only : ∀ j ∈ driven as, j = i)
      (reported : Reported t.errand.aim .nothing (stops as)) : Carried t target none as
  /-- A start has failed or is over, or there is no interpreter. -/
  | excused (excuse : t.errand.isStart = true ∨ target = none) : Carried t target none []

variable {t : Task} {target : Option Nat}

theorem carried_pursuit {aim : Aim} {i : Nat} {turn : Option Turn} (as : List Act) {as' : List Act}
    (pursuit : Pursuit aim t i turn as') (here : target = some i) (only : ∀ j ∈ driven as, j = i)
    (reported : Reported t.errand.aim aim (stops as)) : Carried t target turn (as ++ as') := by
  cases pursuit with
  | ends reported' =>
      refine .ends here ?_ ?_
      · rwa [driven_append, driven_map, List.append_nil]
      · rw [stops_append, stops_map]
        exact reported.trans reported'
  | goesOn reported' =>
      refine .drives here ?_ ?_
      · intro j member
        rw [driven_append, driven_append, driven_map, List.nil_append, List.mem_append] at member
        exact member.elim (only j) List.mem_singleton.mp
      · rw [stops_append, stops_append, stops_map, show stops [.step i] = [] from rfl,
          List.append_nil]
        exact reported.trans reported'

/-- A command goes on, or ends. -/
theorem carried_next (sound : m.before.Sound) (ungranted : m.granted? = none)
    (carried : Carried t target m.before.turn as) :
    Carried t target m.after.turn (as ++ m.acts) ∧
      (m.acts ≠ [] → ∃ turn now, m.before.turn = some turn ∧ turn.task = t ∧
        m.happening = .activity now .advance) := by
  cases continuation sound ungranted with
  | stays turn acts =>
      rw [acts, turn, List.append_nil]
      exact ⟨carried, fun none_ => absurd rfl none_⟩
  | waits turn first turn' acts =>
      rw [acts, List.append_nil]
      refine ⟨?_, fun none_ => absurd rfl none_⟩
      rw [turn] at carried
      cases carried with
      | drives => obtain ⟨due, same⟩ | same := first <;> cases same
      | waits first' start here =>
          obtain ended | codes := turn'
          · rw [ended]
            exact .excused (.inl start)
          · rw [codes]
            refine .waits (.inr rfl) start (here.trans ?_)
            obtain ⟨due, same⟩ | same := first <;> obtain ⟨due', same'⟩ | same' := first' <;>
              cases same.symm.trans same' <;> rfl
  | enters turn advanced pursuit =>
      rw [turn] at carried
      obtain ⟨now, advanced⟩ := advanced
      cases carried with
      | waits first start here =>
          refine ⟨carried_pursuit _ pursuit (here.trans ?_) (by simp [driven]) .pending,
            fun _ => ⟨_, now, turn, rfl, advanced⟩⟩
          obtain ⟨due, same⟩ | same := first
          · cases same
          · cases same
            rfl
  | drives turn advanced pursuit =>
      rw [turn] at carried
      obtain ⟨now, advanced⟩ := advanced
      cases carried with
      | waits first => obtain ⟨due, same⟩ | same := first <;> cases same
      | drives here only reported =>
          exact ⟨carried_pursuit _ pursuit here only reported, fun _ => ⟨_, now, turn, rfl, advanced⟩⟩

/-- A command that gets its turn. -/
theorem carried_beginning (housed : m.before.Housed) (granted : m.granted? = some t) :
    Carried t (m.target? t) m.after.turn m.acts := by
  cases beginning granted with
  | starts start turn acts =>
      rw [acts]
      have here : m.target? t = some m.before.debuggees.length := if_pos start
      obtain failed | ⟨due, waits⟩ := turn
      · rw [failed]
        exact .excused (.inl start)
      · rw [waits]
        exact .waits (.inl ⟨due, rfl⟩) start here
  | nobody other nobody turn acts =>
      rw [turn, acts]
      refine .excused (.inr ((if_neg (by simp [other])).trans ?_))
      cases present : m.before.present with
      | none => rfl
      | some i =>
          have found := List.getElem?_eq_getElem (housed.present i present)
          rw [debuggee?, present, Option.bind_some, found] at nobody
          cases nobody
  | pursues other present pursuit =>
      have here : m.target? t = m.before.present := if_neg (by simp [other])
      exact carried_pursuit [] pursuit (here.trans present) (by simp [driven]) .pending

/-- Nothing is done while no task has its turn. -/
theorem idle_next (sound : m.before.Sound) (idle : m.before.turn = none)
    (ungranted : m.granted? = none) : m.after.turn = none ∧ m.acts = [] := by
  cases continuation sound ungranted with
  | stays turn acts => exact ⟨turn.trans idle, acts⟩
  | waits turn | enters turn | drives turn => cases turn.symm.trans idle

/-- Whether a task gets its turn. -/
def Moment.grants (m : Moment) : Bool := m.granted?.isSome

/-- Whose turn it is, or was at the end of some moments. -/
def turnAfter (turn : Option Turn) (ms : List Moment) : Option Turn :=
  (ms.getLast?.map (·.after.turn)).getD turn

theorem turnAfter_cons (turn : Option Turn) (m : Moment) (ms : List Moment) :
    turnAfter turn (m :: ms) = turnAfter m.after.turn ms := by
  rw [turnAfter, turnAfter, List.getLast?_cons]
  cases ms.getLast? <;> rfl

/-- What a task does itself in a moment: it gets its turn, or goes on. -/
def Moment.OfTask (m : Moment) (t : Task) : Prop :=
  m.granted? = some t ∨ ∃ turn now, m.before.turn = some turn ∧ turn.task = t ∧
    m.happening = .activity now .advance

/-- Until the next task gets its turn, what is done is done by the task whose turn it is. -/
theorem carried_stretch {c : Control} (sound : c.Sound) (os : List Occurrence)
    (carried : Carried t target c.turn as) {ms : List Moment}
    (meanwhile : ms = (Trace.run remember c os).entries.takeWhile (!·.grants)) :
    Carried t target (turnAfter c.turn ms) (as ++ ms.flatMap Moment.acts) ∧
      ∀ m ∈ ms, m.acts ≠ [] → m.OfTask t := by
  induction os generalizing c as ms with
  | nil =>
      subst meanwhile
      simpa [Trace.run, turnAfter] using carried
  | cons o os ih =>
      rw [entries_cons] at meanwhile
      generalize moment : ({ before := c.facing o, happening := o.happening } : Moment) = m
        at meanwhile
      subst meanwhile
      cases granted : m.grants with
      | true =>
          rw [List.takeWhile_cons_of_neg (by simp [granted])]
          simpa [turnAfter] using carried
      | false =>
          have ungranted : m.granted? = none := by simpa [Moment.grants] using granted
          subst moment
          have sound' := sound_facing sound o
          obtain ⟨next, own⟩ := carried_next sound' ungranted carried
          obtain ⟨later, owned⟩ := ih (sound_happen sound' o.happening) next rfl
          rw [List.takeWhile_cons_of_pos (by simp [granted])]
          refine ⟨?_, ?_⟩
          · rw [turnAfter_cons, List.flatMap_cons, ← List.append_assoc]
            exact later
          · intro m' member acted
            obtain rfl | member := List.mem_cons.mp member
            · exact .inr (own acted)
            · exact owned m' member acted

/-! ## Disposal -/

/-- Whether interpreter `i` is disposed of: it is the present one, and the program is terminated, or
has been executed, or another start gets its turn. -/
def Moment.Disposes (m : Moment) (i : Nat) : Prop :=
  m.before.present = some i ∧
    (m.happening = .terminate ∨ m.heard? = some (i, .done) ∨ m.launches = true)

theorem dismissed_of_disposes {i : Nat} (housed : m.before.Housed) (disposes : m.Disposes i) :
    ∃ d, m.after.debuggees[i]? = some d ∧ d.Dismissed := by
  obtain ⟨present, how⟩ := disposes
  have terminated (c : Control) (same : c.present = some i)
      (length : c.debuggees.length = m.before.debuggees.length) :
      ∃ d, c.terminate.debuggees[i]? = some d ∧ d.Dismissed := by
    have inside := housed.present i present
    rw [← length, ← c.aged_terminate.length] at inside
    have found := List.getElem?_eq_getElem inside
    exact ⟨_, found, c.dismissed_terminate i _ same found⟩
  obtain terminate | done | launches := how
  · rw [Moment.after, terminate]
    exact terminated m.before present rfl
  · obtain ⟨now, d, d', -, -, -, -, after⟩ := Moment.heard?_eq done
    rw [after]
    exact terminated (m.before.modifyDebuggee i fun _ => d') present (List.length_modify ..)
  · obtain ⟨now, t, queue, program, stopOnEntry, debug, -, -, -, -, after⟩ :=
      Moment.launches_eq launches
    obtain ⟨d, found, dismissed⟩ := terminated { m.before with queue } present rfl
    refine ⟨d, ?_, dismissed⟩
    rw [after]
    obtain same | one_more :=
      ({ m.before with queue } : Control).launch_debuggees now t program debug
    · rw [same]
      exact found
    · rw [one_more]
      obtain ⟨inside, -⟩ := List.getElem?_eq_some_iff.mp found
      exact (List.getElem?_append_left inside).trans found

/-- A dismissed interpreter is not told to execute anything. -/
theorem orders_dismissed (h : Happening) {i : Nat} {d : Debuggee}
    (found : c.debuggees[i]? = some d) (dismissed : d.Dismissed) :
    (c.happen h).orders i ≤ c.orders i := by
  refine Nat.not_lt.mp fun driven => ?_
  obtain ⟨⟨d', found', notDismissed⟩, -⟩ := drives_cases driven
  cases found.symm.trans found'
  exact notDismissed dismissed

theorem step_not_mem {i : Nat} {d : Debuggee} (found : m.before.debuggees[i]? = some d)
    (dismissed : d.Dismissed) : .step i ∉ m.acts := by
  intro member
  obtain stop | step := List.mem_append.mp member
  · obtain ⟨r, -, same⟩ := List.mem_map.mp stop
    cases same
  · obtain ⟨j, -, step⟩ := List.mem_flatMap.mp step
    obtain ⟨some_, same⟩ := List.mem_replicate.mp step
    cases same
    exact some_ (Nat.sub_eq_zero_of_le (orders_dismissed m.happening found dismissed))

/-! ## Runs -/

/-- What there is to say of the moments from one in which a task gets its turn until the next. -/
structure Block (opened : Moment) (later : List Moment) (t : Task) : Prop where
  granted : opened.granted? = some t
  /-- All that is done is done by this task. -/
  own : ∀ m ∈ opened :: later, m.acts ≠ [] → m.OfTask t
  /-- It drives no other interpreter than its own. -/
  driven : ∀ i ∈ driven ((opened :: later).flatMap Moment.acts), opened.target? t = some i
  /-- It reports one stop at most, for a reason of its own. -/
  stops : stops ((opened :: later).flatMap Moment.acts) = [] ∨
    ∃ r, t.errand.aim.Allows r ∧ stops ((opened :: later).flatMap Moment.acts) = [r]
  /-- A step that is over has reported its stop, if there was an interpreter. -/
  stopped : ∀ granularity, t.errand = .step granularity → opened.before.present ≠ none →
    turnAfter opened.after.turn later = none →
    Control.stops ((opened :: later).flatMap Moment.acts) = [.step]

theorem block_of_carried {opened : Moment} {later : List Moment}
    (granted : opened.granted? = some t) (own : ∀ m ∈ later, m.acts ≠ [] → m.OfTask t)
    (carried : Carried t (opened.target? t) (turnAfter opened.after.turn later)
      ((opened :: later).flatMap Moment.acts)) : Block opened later t where
  granted := granted
  own := by
    intro m member acted
    obtain rfl | member := List.mem_cons.mp member
    · exact .inl granted
    · exact own m member acted
  driven := by
    intro i member
    generalize (opened :: later).flatMap Moment.acts = as at carried member
    generalize turnAfter opened.after.turn later = turn at carried
    cases carried with
    | waits | excused => simp [Control.driven] at member
    | drives here only | ends here only => rw [here, only i member]
  stops := by
    generalize (opened :: later).flatMap Moment.acts = as at carried
    generalize turnAfter opened.after.turn later = turn at carried
    have told {rest : Aim} {rs : List StopReason} (reported : Reported t.errand.aim rest rs) :
        rs = [] ∨ ∃ r, t.errand.aim.Allows r ∧ rs = [r] := by
      cases reported with
      | pending | waived => exact .inl rfl
      | met allowed => exact .inr ⟨_, allowed, rfl⟩
    cases carried with
    | waits | excused => exact .inl rfl
    | drives _ _ reported | ends _ _ reported => exact told reported
  stopped := by
    intro granularity errand present ended
    generalize (opened :: later).flatMap Moment.acts = as at carried
    rw [ended] at carried
    cases carried with
    | ends _ _ reported =>
        rw [errand] at reported
        generalize Control.stops as = rs at reported
        cases reported with
        | met allowed => rw [allowed]
        | waived optional => exact absurd rfl (optional .step)
    | excused excuse =>
        rw [Moment.target?, errand] at excuse
        exact (excuse.elim nofun present).elim

theorem block_of_mem {c : Control} (sound : c.Sound) (housed : c.Housed) (os : List Occurrence)
    {b : List Moment} (member : b ∈ Trace.stretches Moment.grants (Trace.run remember c os).entries) :
    ∃ opened later t, b = opened :: later ∧ Block opened later t := by
  induction os generalizing c with
  | nil => cases member
  | cons o os ih =>
      have sound' := sound_facing sound o
      have housed' := housed_facing housed o
      have later := ih (sound_happen sound' o.happening) (housed_happen housed' o.happening)
      rw [entries_cons, Trace.stretches] at member
      split at member
      · rename_i grants
        obtain ⟨t, granted⟩ := Option.isSome_iff_exists.mp grants
        obtain rfl | member := List.mem_cons.mp member
        · obtain ⟨carried, own⟩ := carried_stretch (sound_happen sound' o.happening) os
            (carried_beginning housed' granted) rfl
          exact ⟨_, _, t, rfl, block_of_carried granted own carried⟩
        · exact later member
      · exact later member

/-- Nothing is done before the first task gets its turn. -/
theorem acts_before {c : Control} (sound : c.Sound) (idle : c.turn = none) (os : List Occurrence)
    {m : Moment} (member : m ∈ (Trace.run remember c os).entries.takeWhile (!·.grants)) :
    m.acts = [] := by
  induction os generalizing c with
  | nil => cases member
  | cons o os ih =>
      rw [entries_cons] at member
      cases granted : Moment.grants { before := c.facing o, happening := o.happening } with
      | true =>
          rw [List.takeWhile_cons_of_neg (by simp [granted])] at member
          cases member
      | false =>
          have ungranted : Moment.granted? { before := c.facing o, happening := o.happening } = none := by
            simpa [Moment.grants] using granted
          have sound' := sound_facing sound o
          obtain ⟨idle', acts⟩ := idle_next sound' idle ungranted
          rw [List.takeWhile_cons_of_pos (by simp [granted])] at member
          obtain rfl | member := List.mem_cons.mp member
          · exact acts
          · exact ih (sound_happen sound' o.happening) idle' member

/-- What has been disposed of so far is dismissed. -/
structure Disposed (t : Trace Control Moment) : Prop where
  housed : t.state.Housed
  dismissed : ∀ m ∈ t.entries, ∀ i, m.Disposes i →
    ∃ d, t.state.debuggees[i]? = some d ∧ d.Dismissed
  quiet : t.entries.Pairwise fun m m' => ∀ i, m.Disposes i → .step i ∉ m'.acts

theorem disposed_next {t : Trace Control Moment} (disposed : Disposed t) (o : Occurrence) :
    Disposed (t.next remember o) where
  housed := housed_happen (housed_facing disposed.housed o) o.happening
  dismissed := by
    intro m member i disposes
    obtain past | now := List.mem_append.mp member
    · obtain ⟨d, found, dismissed⟩ := disposed.dismissed m past i disposes
      exact ((t.state.facing o).keeps_happen o.happening).dismissed i d found dismissed
    · cases List.mem_singleton.mp now
      exact dismissed_of_disposes (housed_facing disposed.housed o) disposes
  quiet := by
    refine List.pairwise_append.mpr ⟨disposed.quiet, List.pairwise_singleton _ _, ?_⟩
    intro m past m' now i disposes
    cases List.mem_singleton.mp now
    obtain ⟨d, found, dismissed⟩ := disposed.dismissed m past i disposes
    exact step_not_mem found dismissed

/-- What a run shows: blocks of commands, one after the other. -/
structure OneByOne (ms : List Moment) : Prop where
  block : ∀ b ∈ Trace.stretches Moment.grants ms, ∃ opened later t, b = opened :: later ∧
    Block opened later t
  /-- There is nothing else, ... -/
  acts : ms.flatMap Moment.acts =
    (Trace.stretches Moment.grants ms).flatMap (·.flatMap Moment.acts)
  /-- ... and there is one for each task that gets its turn. -/
  tasks : ms.filterMap Moment.granted? =
    (Trace.stretches Moment.grants ms).filterMap (·.head?.bind Moment.granted?)
  /-- An interpreter that has been disposed of is not told to execute anything any more. -/
  disposed : ms.Pairwise fun m m' => ∀ i, m.Disposes i → .step i ∉ m'.acts

/-- Whatever happens, commands are carried out one after the other, and an interpreter that has been
disposed of is not driven. -/
theorem history_one_by_one (config : Monitor.Config) (home : String) (os : List Occurrence) :
    OneByOne (history config home os).entries where
  block := fun b member => block_of_mem (sound_opening config home none)
    (housed_opening config home none) os member
  acts := (Trace.flatMap_stretches _ fun _ member =>
    acts_before (sound_opening config home none) rfl os member).symm
  tasks := (Trace.filterMap_stretches _ (fun _ => rfl) _).symm
  disposed := by
    refine (Trace.run_invariant (P := Disposed) remember ?_ (fun _ o disposed =>
      disposed_next disposed o) os).quiet
    exact ⟨housed_opening config home none, by simp, .nil⟩

end Control

end DebugAdapter
