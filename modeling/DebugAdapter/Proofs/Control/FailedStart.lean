import DebugAdapter.Proofs.Control.Breakpoints
import DebugAdapter.Proofs.Control.SessionEnd
/-!
# Starts that fail

A start fails when no interpreter can be launched, or when the new one does not report its first
status in time. In both cases there is no interpreter afterwards, neither the new one nor the one
before, and nothing but the failure itself has been noted. What the user asks for then is done at
once, with no effect.
-/

namespace DebugAdapter

namespace Control

/-! ## What a launch leaves alone -/

theorem terminate_eq (c : Control) : c.terminate = { c with debuggees := c.terminate.debuggees } := by
  unfold terminate
  split <;> rfl

theorem launch_refused (c : Control) (now : Millis) (t : Task) (program : String) (debug : Bool)
    {reason : Monitor.Refusal} (refusal : c.refusal = some reason) :
    ∃ debuggees launches, c.launch now t program debug =
      { c with
        debuggees, launches, present := none, memory := { debug }, turn := none
        notices := c.notices ++ [.output .important (Monitor.StartError.refused reason).message, .ended]
        done := c.done ++ t.asker.toList } := by
  unfold launch disposeSession
  rw [terminate_eq]
  simp only [refusal]
  exact ⟨_, _, rfl⟩

theorem launch_accepted (c : Control) (now : Millis) (t : Task) (program : String) (debug : Bool)
    (accepted : c.refusal = none) :
    ∃ debuggees launches, c.launch now t program debug =
      { c with
        debuggees, launches, present := none, memory := { debug }
        turn := some
          { task := t, phase := .status c.debuggees.length (now + c.config.statusTimeout) } } := by
  have length : c.terminate.debuggees.length = c.debuggees.length := c.calm_terminate.tells.length
  unfold launch disposeSession
  rw [terminate_eq]
  simp only [accepted, length]
  exact ⟨_, _, rfl⟩

/-! ## Between the launch and the failure -/

theorem Happening.turn_cases (h : Happening) :
    (∀ now, h ≠ .activity now .grant ∧ h ≠ .activity now .advance) ∨
      (∃ now, h = .activity now .grant) ∨ ∃ now, h = .activity now .advance := by
  cases h with
  | activity now a =>
      cases a with
      | grant => exact .inr (.inl ⟨now, rfl⟩)
      | advance => exact .inr (.inr ⟨now, rfl⟩)
      | debuggee | hear | ask => exact .inl (by simp)
  | request | terminate | breakpoints | evaluate | interpreter => exact .inl (by simp)

/-- Where there is no interpreter, what happens changes nothing but what interpreters do by
themselves, what is asked for, and breakpoints, unless a task gets its turn or goes on. -/
theorem happen_nobody {c : Control} (nobody : c.present = none) (h : Happening)
    (other : ∀ now, h ≠ .activity now .grant ∧ h ≠ .activity now .advance) :
    ∃ debuggees tasks queue breakpoints,
      c.happen h = { c with debuggees, tasks, queue, breakpoints } := by
  have idle {c' : Control} (same : c' = c) : ∃ debuggees tasks queue breakpoints,
      c' = { c with debuggees, tasks, queue, breakpoints } :=
    ⟨c.debuggees, c.tasks, c.queue, c.breakpoints, same⟩
  cases h with
  | activity now a =>
      cases a with
      | debuggee i a =>
          rw [happen, perform?]
          cases c.debuggees[i]? with
          | none => exact idle rfl
          | some d =>
              simp only [Option.bind_eq_bind, Option.bind_some]
              cases d.perform? now a with
              | none => exact idle rfl
              | some d => exact ⟨_, _, _, _, rfl⟩
      | hear => exact idle (by simp [happen, perform?, nobody])
      | ask i =>
          rw [happen, perform?]
          cases c.tasks[i]? with
          | none => exact idle rfl
          | some t => exact ⟨_, _, _, _, rfl⟩
      | grant => exact absurd rfl (other now).1
      | advance => exact absurd rfl (other now).2
  | request errand asker => exact ⟨_, _, _, _, rfl⟩
  | terminate => exact idle (by simp [happen, terminate, nobody])
  | breakpoints f => exact ⟨_, _, _, _, rfl⟩
  | evaluate expression context => exact idle (by simp [happen, evaluate, debuggee?, nobody])
  | interpreter i line complaints fate => exact ⟨_, _, _, _, rfl⟩

/-- What there is while the first status of interpreter `i` is waited for, when there was `b` before
the start got its turn. -/
structure Awaiting (b : Control) (t : Task) (i : Nat) (due : Millis) (c : Control) : Prop where
  turn : c.turn = some { task := t, phase := .status i due }
  present : c.present = none
  config : c.config = b.config
  notices : c.notices = b.notices
  done : c.done = b.done
  resumeFrom : c.memory.resumeFrom = none

/-- What there is after a start has failed. -/
structure Undone (b : Control) (t : Task) (e : Monitor.StartError) (c : Control) : Prop where
  turn : c.turn = none
  present : c.present = none
  notices : c.notices = b.notices ++ [.output .important e.message, .ended]
  done : c.done = b.done ++ t.asker.toList
  resumeFrom : c.memory.resumeFrom = none

namespace Moment

variable {m : Moment} {b : Control} {t : Task} {i : Nat} {due : Millis}

theorem awaiting_next (awaiting : Awaiting b t i due m.before) :
    Awaiting b t i due m.after ∨
      (∃ d, m.before.debuggees[i]? = some d ∧ 0 < d.monitor.refreshed ∧ m.after.starting? = none) ∨
      m.Fails i (.silent b.config.statusTimeout) ∧ Undone b t (.silent b.config.statusTimeout) m.after := by
  rcases m.happening.turn_cases with other | ⟨now, granted⟩ | ⟨now, advanced⟩
  · obtain ⟨debuggees, tasks, queue, breakpoints, after⟩ :=
      happen_nobody awaiting.present m.happening other
    left
    rw [Moment.after, after]
    exact ⟨awaiting.turn, awaiting.present, awaiting.config, awaiting.notices, awaiting.done,
      awaiting.resumeFrom⟩
  · left
    have same : m.after = m.before := by
      simp [Moment.after, granted, happen, perform?, awaiting.turn]
    rwa [same]
  · have waits (same : m.before.advance? now = none) : Awaiting b t i due m.after := by
      rwa [after_activity advanced, perform?, same, Option.getD_none]
    cases found : m.before.debuggees[i]? with
    | none => exact .inl (waits (by simp [advance?, awaiting.turn, found]))
    | some d =>
        by_cases refreshed : 0 < d.monitor.refreshed
        · right; left
          have after : m.after = m.before.install t i := by
            simp [after_activity advanced, perform?, advance?, awaiting.turn, found, refreshed]
          exact ⟨d, rfl, refreshed, by rw [after, (install_same ..).2.2.1]⟩
        · have silent : d.monitor.refreshed = 0 := by omega
          by_cases late : due ≤ now
          · right; right
            have fails := Fails.silent advanced awaiting.turn found silent late
            have after : m.after = (m.before.modifyDebuggee i Debuggee.dispose).fail t
                (.silent m.before.config.statusTimeout) := by
              simp [after_activity advanced, perform?, advance?, awaiting.turn, found, silent, late]
            rw [awaiting.config] at fails after
            rw [after]
            exact ⟨fails, rfl, awaiting.present, congrArg (· ++ _) awaiting.notices,
              congrArg (· ++ _) awaiting.done, awaiting.resumeFrom⟩
          · exact .inl (waits (by simp [advance?, awaiting.turn, found, silent, late]))

theorem begin_start {c : Control} {t : Task} (start : t.errand.isStart = true) :
    ∃ program debug, ∀ now, c.begin now t = c.launch now t program debug := by
  cases errand : t.errand with
  | start program stopOnEntry debug => exact ⟨program, debug, fun now => by rw [begin, errand]⟩
  | resume | step =>
      rw [errand] at start
      cases start

section

variable (granted : m.granted? = some t) (start : t.errand.isStart = true)
include granted start

theorem undone_of_refused {reason : Monitor.Refusal} (refusal : m.before.refusal = some reason) :
    Undone m.before t (.refused reason) m.after := by
  obtain ⟨now, queue, -, -, -, after⟩ := granted?_eq granted
  obtain ⟨program, debug, begun⟩ := begin_start (c := { m.before with queue }) start
  obtain ⟨debuggees, launches, launched⟩ :=
    launch_refused { m.before with queue } now t program debug refusal
  rw [after, begun, launched]
  exact ⟨rfl, rfl, rfl, rfl, rfl⟩

theorem awaiting_of_accepted (accepted : m.before.refusal = none) {now : Millis}
    (happening : m.happening = .activity now .grant) :
    Awaiting m.before t m.before.debuggees.length (now + m.before.config.statusTimeout) m.after := by
  obtain ⟨now', queue, happening', -, -, after⟩ := granted?_eq granted
  cases happening.symm.trans happening'
  obtain ⟨program, debug, begun⟩ := begin_start (c := { m.before with queue }) start
  obtain ⟨debuggees, launches, launched⟩ :=
    launch_accepted { m.before with queue } now t program debug accepted
  rw [after, begun, launched]
  exact ⟨rfl, rfl, rfl, rfl, rfl, rfl⟩

end

/-- What no longer waits for a first status does not do so before the next start. -/
theorem starting_next (idle : m.before.starting? = none) (unlaunched : m.launches = false) :
    m.after.starting? = none := by
  cases m.proceeds with
  | performs _ _ _ after | outside _ after => rw [after]; exact idle
  | hears _ _ _ _ after => rw [after, (hear_same ..).2]; exact idle
  | launches launches => cases unlaunched.symm.trans launches
  | installs _ turn | givesUp _ turn => simp [starting?, turn] at idle
  | calm calm => exact calm.starting.trans idle

/-- While a task has its turn no other one gets it. -/
theorem unlaunched_of_turn {turn : Turn} (busy : m.before.turn = some turn) : m.launches = false := by
  cases launches : m.launches with
  | false => rfl
  | true =>
      obtain ⟨_, _, _, _, _, _, _, idle, -⟩ := launches_eq launches
      cases busy.symm.trans idle

/-- Where there is no interpreter and no task has its turn, nothing comes of what is asked for. -/
theorem nobody_next (nobody : m.before.present = none) (idle : m.before.turn = none)
    (unlaunched : m.launches = false) : m.after.present = none ∧ m.after.turn = none ∧
      m.after.notices = m.before.notices ∧ m.after.memory = m.before.memory := by
  have same (unchanged : m.after = m.before) : m.after.present = none ∧ m.after.turn = none ∧
      m.after.notices = m.before.notices ∧ m.after.memory = m.before.memory := by
    rw [unchanged]
    exact ⟨nobody, idle, rfl, rfl⟩
  rcases m.happening.turn_cases with other | ⟨now, granted⟩ | ⟨now, advanced⟩
  · obtain ⟨debuggees, tasks, queue, breakpoints, after⟩ := happen_nobody nobody m.happening other
    rw [Moment.after, after]
    exact ⟨nobody, idle, rfl, rfl⟩
  · cases waiting : m.before.queue with
    | nil => exact same (by simp [after_activity granted, perform?, idle, waiting])
    | cons t queue =>
        have after : m.after = ({ m.before with queue } : Control).begin now t := by
          simp [after_activity granted, perform?, idle, waiting]
        have finished (goal : Goal) : ({ m.before with queue } : Control).pursuePresent now t goal =
            ({ m.before with queue } : Control).finish t := by
          simp [pursuePresent, nobody]
        cases errand : t.errand with
        | start =>
            simp [Moment.launches, granted?, granted, idle, waiting, errand, Errand.isStart] at unlaunched
        | resume | step =>
            simp only [after, begin, errand, finished]
            exact ⟨nobody, rfl, rfl, rfl⟩
  · exact same (by simp [after_activity advanced, perform?, advance?, idle])

theorem regular_next (regular : ∀ d ∈ m.before.debuggees, d.link.Regular) :
    ∀ d ∈ m.after.debuggees, d.link.Regular :=
  m.every_next (fun fares regular => fares.regular regular)
    (fun _ _ => Channel.Link.regular_overPipe _) regular

end Moment

/-! ## Courses -/

section

variable {c : Control} {os : Nat → Occurrence} {n k : Nat} {t : Task} {e : Monitor.StartError}

theorem sound_during (sound : c.Sound) (k : Nat) : (c.during os k).Sound := by
  induction k with
  | zero => exact sound
  | succ k ih => exact sound_happen (sound_facing ih (os k)) (os k).happening

/-- Every channel is regular. -/
theorem regular_during (regular : ∀ d ∈ c.debuggees, d.link.Regular) (k : Nat) :
    ∀ d ∈ (c.during os k).debuggees, d.link.Regular := by
  induction k with
  | zero => exact regular
  | succ k ih => exact Moment.regular_next (m := c.momentAt os k) ih

theorem launches_of_granted (granted : (c.momentAt os n).granted? = some t)
    (start : t.errand.isStart = true) : (c.momentAt os n).launches = true := by
  rw [Moment.launches, granted]
  exact start

/-- As long as a task has its turn there is no other start. -/
theorem Unreplaced.succ (unreplaced : c.Unreplaced os n k) {turn : Turn}
    (busy : (c.during os k).turn = some turn) : c.Unreplaced os n (k + 1) := by
  intro j after before
  obtain earlier | rfl : j < k ∨ j = k := by omega
  · exact unreplaced j after earlier
  · exact Moment.unlaunched_of_turn (m := c.momentAt os j) busy

theorem Awaiting.facing {b c : Control} {i : Nat} {due : Millis} (awaiting : Awaiting b t i due c)
    (o : Occurrence) : Awaiting b t i due (c.facing o) :=
  ⟨awaiting.turn, awaiting.present, awaiting.config, awaiting.notices, awaiting.done,
    awaiting.resumeFrom⟩

theorem starting_during (idle : (c.during os n).starting? = none) (later : n ≤ k)
    (unlaunched : ∀ j ≥ n, j < k → (c.momentAt os j).launches = false) :
    (c.during os k).starting? = none := by
  induction later with
  | refl => exact idle
  | @step k later ih =>
      have before := ih fun j first before => unlaunched j first (by omega)
      exact Moment.starting_next (m := c.momentAt os k) before
        (unlaunched k later (Nat.lt_succ_self k))

section

variable (granted : (c.momentAt os n).granted? = some t) (start : t.errand.isStart = true)
include granted start

/-- When no interpreter can be launched that is all. -/
theorem undone_first {reason : Monitor.Refusal} (refusal : (os n).refusal = some reason) :
    Undone (c.during os n) t (.refused reason) (c.during os (n + 1)) := by
  have undone := Moment.undone_of_refused granted start refusal
  exact ⟨undone.turn, undone.present, undone.notices, undone.done, undone.resumeFrom⟩

/-- When one can be launched its first status is waited for. -/
theorem awaiting_first (accepted : (os n).refusal = none) {now : Millis}
    (happening : (os n).happening = .activity now .grant) :
    Awaiting (c.during os n) t (c.newcomer os n) (now + (c.during os n).config.statusTimeout)
      (c.during os (n + 1)) := by
  have awaiting := Moment.awaiting_of_accepted granted start accepted happening
  exact ⟨awaiting.turn, awaiting.present, awaiting.config, awaiting.notices, awaiting.done,
    awaiting.resumeFrom⟩

end

/-- Until that is over nothing else happens. -/
theorem awaiting_during {due : Millis} (first : Awaiting (c.during os n) t (c.newcomer os n) due
      (c.during os (n + 1))) (later : n < k) (unreplaced : c.Unreplaced os n k) :
    Awaiting (c.during os n) t (c.newcomer os n) due (c.during os k) ∨
      (c.during os k).starting? = none := by
  induction later with
  | refl => exact .inl first
  | @step k later ih =>
      have unlaunched := unreplaced k later (Nat.lt_succ_self k)
      obtain awaiting | idle := ih fun j after before => unreplaced j after (by omega)
      · obtain goesOn | ⟨d, -, -, installed⟩ | ⟨-, undone⟩ :=
          Moment.awaiting_next (m := c.momentAt os k) (awaiting.facing (os k))
        · exact .inl goesOn
        · exact .inr installed
        · have idle : (c.during os (k + 1)).turn = none := undone.turn
          exact .inr (by rw [starting?, idle]; rfl)
      · exact .inr (Moment.starting_next (m := c.momentAt os k) idle unlaunched)

/-- A first status that is waited for before the next start is that of the new interpreter. -/
theorem awaiting_of_starting (granted : (c.momentAt os n).granted? = some t)
    (start : t.errand.isStart = true) (later : n < k) (unreplaced : c.Unreplaced os n k)
    (waits : (c.during os k).starting? ≠ none) :
    ∃ due, Awaiting (c.during os n) t (c.newcomer os n) due (c.during os k) := by
  cases refusal : (os n).refusal with
  | some reason =>
      have idle : (c.during os (n + 1)).starting? = none := by
        rw [starting?, (undone_first granted start refusal).turn]
        rfl
      exact absurd (starting_during idle later unreplaced) waits
  | none =>
      obtain ⟨now, queue, happening, -⟩ := Moment.granted?_eq granted
      have first := awaiting_first granted start refusal happening
      obtain awaiting | idle := awaiting_during first later unreplaced
      · exact ⟨_, awaiting⟩
      · exact absurd idle waits

/-- Whether the start that gets its turn at the `n`th moment fails at the `k`th. -/
structure FailsAt (c : Control) (os : Nat → Occurrence) (n k : Nat) (t : Task)
    (e : Monitor.StartError) : Prop where
  granted : (c.momentAt os n).granted? = some t
  start : t.errand.isStart = true
  later : n ≤ k
  unreplaced : c.Unreplaced os n (k + 1)
  fails : (c.momentAt os k).Fails (c.newcomer os n) e

theorem FailsAt.undone (failed : c.FailsAt os n k t e) :
    Undone (c.during os n) t e (c.during os (k + 1)) := by
  obtain ⟨granted, start, later, unreplaced, fails⟩ := failed
  have noted := fails.notices
  cases fails with
  | refused launches refusal =>
      -- Another start has not got its turn, so it is refused at once.
      have same : k = n := by
        by_contra other
        have unlaunched := unreplaced k (by omega) (Nat.lt_succ_self k)
        cases unlaunched.symm.trans launches
      subst same
      exact undone_first granted start refusal
  | @silent now task due d advanced turn found silent late =>
      have after : n < k := by
        refine Nat.lt_of_le_of_ne later ?_
        rintro rfl
        obtain ⟨now', queue, happening, -⟩ := Moment.granted?_eq granted
        cases happening.symm.trans advanced
      have waits : (c.during os k).starting? ≠ none := by
        have turn : (c.during os k).turn = some { task, phase := .status (c.newcomer os n) due } := turn
        rw [starting?, turn]
        exact Option.some_ne_none _
      obtain ⟨due, awaiting⟩ := awaiting_of_starting granted start after
        (fun j after before => unreplaced j after (Nat.lt_succ_of_lt before)) waits
      obtain goesOn | ⟨d', found', refreshed, -⟩ | ⟨-, undone⟩ :=
        Moment.awaiting_next (m := c.momentAt os k) (awaiting.facing (os k))
      · rw [Moment.notices_nil (goesOn.notices.trans awaiting.notices.symm)] at noted
        cases noted
      · cases found.symm.trans found'
        omega
      · have config : (c.momentAt os k).before.config = (c.during os n).config := awaiting.config
        rw [config]
        exact undone

/-- After a failure there is no interpreter, and nothing is noted, until the next start. -/
theorem Undone.lasts {b : Control} (undone : Undone b t e (c.during os n)) (later : n ≤ k)
    (unlaunched : ∀ j ≥ n, j < k → (c.momentAt os j).launches = false) :
    (c.during os k).present = none ∧ (c.during os k).turn = none ∧
      (c.during os k).notices = (c.during os n).notices ∧
      (c.during os k).memory = (c.during os n).memory := by
  induction later with
  | refl => exact ⟨undone.present, undone.turn, rfl, rfl⟩
  | @step k later ih =>
      obtain ⟨nobody, idle, notices, memory⟩ := ih fun j first before => unlaunched j first (by omega)
      obtain ⟨nobody', idle', notices', memory'⟩ := Moment.nobody_next (m := c.momentAt os k) nobody
        idle (unlaunched k later (Nat.lt_succ_self k))
      exact ⟨nobody', idle', notices'.trans notices, memory'.trans memory⟩

/-- Whether interpreter `i` has been killed. -/
def Killed (c : Control) (os : Nat → Occurrence) (i k : Nat) : Prop :=
  ∃ d, (c.during os k).debuggees[i]? = some d ∧ d.link.channel.ended = true ∧
    d.link.channel.status = .killed

/-- What is left of a start that fails. -/
structure LeavesNothing (c : Control) (os : Nat → Occurrence) (n k : Nat) (t : Task)
    (e : Monitor.StartError) : Prop where
  /-- It is done, and so is nothing else that has been asked for. -/
  returns : (c.during os (k + 1)).turn = none ∧
    (c.during os (k + 1)).done = (c.during os n).done ++ t.asker.toList
  /-- The failure is noted, and the end of the session. -/
  noted : noted (c.during os n) (c.during os (k + 1)) = [.output .important e.message, .ended]
  /-- There is no interpreter to look at or to talk to. -/
  nobody : (c.during os (k + 1)).present = none ∧ (c.during os (k + 1)).frames = [] ∧
    (c.during os (k + 1)).locals = [] ∧ (c.during os (k + 1)).parameters = [] ∧
    (c.during os (k + 1)).terminate = c.during os (k + 1) ∧ ∀ expression context,
      (c.during os (k + 1)).evaluate expression context = (none, c.during os (k + 1))
  resumeFrom : (c.during os (k + 1)).memory.resumeFrom = none
  /-- Every interpreter that there has been is told to stop, ... -/
  dismissed : ∀ d ∈ (c.during os (k + 1)).debuggees, d.Dismissed
  /-- ... and is killed in time. -/
  stops : ∀ i < (c.during os (k + 1)).debuggees.length, Fair os i → ∃ k' > k, c.Killed os i k'
  /-- Breakpoints are as the user has set them. -/
  breakpoints : (c.during os (k + 1)).breakpoints = edited os n (k + 1) (c.during os n).breakpoints
  /-- Whatever is asked for, nothing is noted until the next start gets its turn. -/
  still : ∀ k' > k, c.Unreplaced os n k' → (c.during os k').present = none ∧
    (c.during os k').notices = (c.during os (k + 1)).notices ∧
    (c.during os k').memory.resumeFrom = none

theorem FailsAt.leavesNothing (failed : c.FailsAt os n k t e) (sound : c.Sound)
    (regular : ∀ d ∈ c.debuggees, d.link.Regular) : c.LeavesNothing os n k t e := by
  have undone := failed.undone
  have dismissed : ∀ d ∈ (c.during os (k + 1)).debuggees, d.Dismissed := by
    intro d member
    obtain ⟨i, found⟩ := List.getElem?_of_mem member
    have sound : (c.during os (k + 1)).Sound := sound_during sound (k + 1)
    obtain dismissed | present | ⟨task, due, turn⟩ := sound.orderly.others i d found
    · exact dismissed
    · cases undone.present.symm.trans present
    · cases undone.turn.symm.trans turn
  constructor
  case returns => exact ⟨undone.turn, undone.done⟩
  case noted => exact noted_eq undone.notices
  case nobody =>
    have nobody := undone.present
    refine ⟨nobody, ?_, ?_, ?_, ?_, fun expression context => ?_⟩
    · simp [frames, snapshot?, debuggee?, nobody]
    · simp [locals, snapshot?, debuggee?, nobody]
    · simp [parameters, snapshot?, debuggee?, nobody]
    · simp [terminate, nobody]
    · simp [evaluate, debuggee?, nobody]
  case resumeFrom => exact undone.resumeFrom
  case dismissed => exact dismissed
  case stops =>
    intro i inside fair
    have found := List.getElem?_eq_getElem inside
    have member := List.getElem_mem inside
    obtain ⟨k', later, d, found', regular', ended⟩ := ends_of_leaving fair ⟨_, found,
      regular_during regular (k + 1) _ member, (dismissed _ member).leaving⟩
    exact ⟨k', later, d, found', ended, regular'.killed ended⟩
  case breakpoints => exact c.breakpoints_during os (Nat.le_succ_of_le failed.later)
  case still =>
    intro k' after unreplaced
    have later := failed.later
    obtain ⟨present, -, notices, memory⟩ := undone.lasts after fun j first before =>
      unreplaced j (by omega) before
    exact ⟨present, notices, by rw [memory]; exact undone.resumeFrom⟩

/-! ## Which starts fail -/

/-- The interpreter of a start says nothing from then on. -/
def Quiet (c : Control) (os : Nat → Occurrence) (n k : Nat) : Prop :=
  ∀ j, n < j → j ≤ k → ∀ d, (c.during os j).debuggees[c.newcomer os n]? = some d →
    d.monitor.refreshed = 0

theorem fails_refused (granted : (c.momentAt os n).granted? = some t)
    (start : t.errand.isStart = true) {reason : Monitor.Refusal}
    (refusal : (os n).refusal = some reason) : c.FailsAt os n n t (.refused reason) where
  granted := granted
  start := start
  later := Nat.le_refl n
  unreplaced := fun j after before => by omega
  fails := .refused (launches_of_granted granted start) refusal

/-- A first status that does not come is waited for until it is given up. -/
theorem fails_or_awaits (granted : (c.momentAt os n).granted? = some t)
    (start : t.errand.isStart = true) {due : Millis}
    (first : Awaiting (c.during os n) t (c.newcomer os n) due (c.during os (n + 1)))
    (later : n < k) (quiet : c.Quiet os n k) :
    (∃ j, n < j ∧ j < k ∧ c.FailsAt os n j t (.silent (c.during os n).config.statusTimeout)) ∨
      Awaiting (c.during os n) t (c.newcomer os n) due (c.during os k) ∧ c.Unreplaced os n k := by
  induction later with
  | refl => exact .inr ⟨first, fun j after before => by omega⟩
  | @step k later ih =>
      obtain ⟨j, after, before, failed⟩ | ⟨awaiting, unreplaced⟩ :=
        ih fun j after before => quiet j after (Nat.le_succ_of_le before)
      · exact .inl ⟨j, after, Nat.lt_succ_of_lt before, failed⟩
      · have unreplaced := unreplaced.succ awaiting.turn
        obtain goesOn | ⟨d, found, refreshed, -⟩ | ⟨fails, -⟩ :=
          Moment.awaiting_next (m := c.momentAt os k) (awaiting.facing (os k))
        · exact .inr ⟨goesOn, unreplaced⟩
        · have silent := quiet k later (Nat.le_succ k) d found
          omega
        · exact .inl ⟨k, later, Nat.lt_succ_self k, granted, start, Nat.le_of_lt later, unreplaced, fails⟩

theorem fails_silent (housed : c.Housed) (granted : (c.momentAt os n).granted? = some t)
    (start : t.errand.isStart = true) (accepted : (os n).refusal = none) {begun now : Millis}
    (happening : (os n).happening = .activity begun .grant) (later : n < k)
    (quiet : c.Quiet os n k) (advanced : (os k).happening = .activity now .advance)
    (late : begun + (c.during os n).config.statusTimeout ≤ now) :
    ∃ j, n < j ∧ j ≤ k ∧ c.FailsAt os n j t (.silent (c.during os n).config.statusTimeout) := by
  have first := awaiting_first granted start accepted happening
  obtain ⟨j, after, before, failed⟩ | ⟨awaiting, unreplaced⟩ :=
    fails_or_awaits granted start first later quiet
  · exact ⟨j, after, Nat.le_of_lt before, failed⟩
  · have housed : (c.during os k).Housed := housed_during housed k
    have found := List.getElem?_eq_getElem (housed.awaited _ ⟨_, _, awaiting.turn⟩)
    have fails := Moment.Fails.silent (m := c.momentAt os k) advanced awaiting.turn found
      (quiet k later (Nat.le_refl k) _ found) late
    have config : (c.momentAt os k).before.config = (c.during os n).config := awaiting.config
    rw [config] at fails
    exact ⟨k, later, Nat.le_refl k, granted, start, Nat.le_of_lt later,
      unreplaced.succ awaiting.turn, fails⟩

/-- What there is to say of starts that fail. -/
structure FailsCleanly (c : Control) (os : Nat → Occurrence) : Prop where
  /-- A start fails when no interpreter can be launched, ... -/
  refused : ∀ n t reason, (c.momentAt os n).granted? = some t → t.errand.isStart = true →
    (os n).refusal = some reason → c.FailsAt os n n t (.refused reason)
  /-- ... and when its interpreter has not reported its first status in time. -/
  silent : ∀ n k t begun now, (c.momentAt os n).granted? = some t → t.errand.isStart = true →
    (os n).refusal = none → (os n).happening = .activity begun .grant → n < k → c.Quiet os n k →
    (os k).happening = .activity now .advance →
    begun + (c.during os n).config.statusTimeout ≤ now →
    ∃ j, n < j ∧ j ≤ k ∧ c.FailsAt os n j t (.silent (c.during os n).config.statusTimeout)
  leavesNothing : ∀ n k t e, c.FailsAt os n k t e → c.LeavesNothing os n k t e

/-- Whatever has happened before, nothing is left of a start that fails. -/
theorem failed_starts_leave_nothing (config : Monitor.Config) (home : String)
    (os : Nat → Occurrence) : FailsCleanly (opening config home none) os where
  refused _ _ _ granted start refusal := fails_refused granted start refusal
  silent _ _ _ _ _ granted start accepted happening later quiet advanced late :=
    fails_silent (housed_opening config home none) granted start accepted happening later quiet
      advanced late
  leavesNothing _ _ _ _ failed :=
    failed.leavesNothing (sound_opening config home none) (by rintro d ⟨⟩)

end

/-- An interpreter has come up when another start gets its turn, and the new one says nothing. -/
def restarting : List Happening :=
  (resuming "CallUpdate").dropLast ++
    [.request (.start "q.bbc" false false) none, .activity 3000 (.ask 1), .activity 3000 .grant]

def silenced (n : Nat) : Occurrence :=
  { happening := (restarting[n]?).getD (.activity 8000 .advance) }

theorem failed_starts_leave_nothing_silenced :
    let c := opening {} "/" none
    let t : Task := { errand := .start "q.bbc" false false }
    (c.during silenced 20).present = some 0 ∧ c.FailsAt silenced 20 21 t (.silent 5000) ∧
      noted (c.during silenced 20) (c.during silenced 22) =
        [.output .important "waiting for first status: Debugger timed out (5000 ms)", .ended] := by
  intro c t
  obtain ⟨granted, start, timeout, silent, present⟩ :
      (c.momentAt silenced 20).granted? = some t ∧ t.errand.isStart = true ∧
        (c.during silenced 20).config.statusTimeout = 5000 ∧
        ((c.during silenced 21).debuggees[c.newcomer silenced 20]?).any (·.monitor.refreshed = 0) ∧
        (c.during silenced 20).present = some 0 := by
    decide +kernel
  have quiet : c.Quiet silenced 20 21 := by
    intro j after before d found
    have last : j = 21 := by omega
    rw [last] at found
    rw [found] at silent
    exact of_decide_eq_true silent
  have fails : c.FailsCleanly silenced := failed_starts_leave_nothing {} "/" silenced
  have late : (3000 : Millis) + (c.during silenced 20).config.statusTimeout ≤ 8000 :=
    Nat.add_le_add_left timeout.le 3000
  obtain ⟨j, after, before, failed⟩ :=
    fails.silent 20 21 t 3000 8000 granted start rfl rfl (by omega) quiet rfl late
  have last : j = 21 := by omega
  rw [timeout, last] at failed
  exact ⟨present, failed, (fails.leavesNothing 20 21 t _ failed).noted⟩

end Control

end DebugAdapter
