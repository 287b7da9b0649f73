import DebugAdapter.Control.Basic
import DebugAdapter.Proofs.Monitor.Dismissal
/-!
# Interpreters follow one another

Execution control starts one interpreter after the other, and dismisses each before the next. All of
them but one are dismissed at any time: the one that is left is the present one, or has been started
and not reported its first status yet.
-/

namespace DebugAdapter

open Monitor (Waiter)

namespace Control

/-! ## Lists of interpreters -/

/-- The same interpreters later on. -/
structure Aged (ds ds' : List Debuggee) : Prop where
  length : ds'.length = ds.length
  dismissed : ∀ {i : Nat} {d d' : Debuggee}, ds[i]? = some d → ds'[i]? = some d' →
    d.Dismissed → d'.Dismissed

theorem Aged.refl (ds : List Debuggee) : Aged ds ds where
  length := rfl
  dismissed := by
    intro i d d' before after dismissed
    cases before.symm.trans after
    exact dismissed

theorem Aged.find {ds ds' : List Debuggee} (aged : Aged ds ds') {i : Nat} {d' : Debuggee}
    (found : ds'[i]? = some d') : ∃ d, ds[i]? = some d := by
  obtain ⟨inside, -⟩ := List.getElem?_eq_some_iff.mp found
  rw [aged.length] at inside
  exact ⟨ds[i], List.getElem?_eq_getElem inside⟩

theorem Aged.trans {ds₁ ds₂ ds₃ : List Debuggee} (first : Aged ds₁ ds₂) (second : Aged ds₂ ds₃) :
    Aged ds₁ ds₃ where
  length := second.length.trans first.length
  dismissed := by
    intro i d d' before after dismissed
    obtain ⟨between, found⟩ := second.find after
    exact second.dismissed found after (first.dismissed before found dismissed)

theorem aged_modify (ds : List Debuggee) (i : Nat) (f : Debuggee → Debuggee)
    (keeps : ∀ d, ds[i]? = some d → d.Dismissed → (f d).Dismissed) : Aged ds (ds.modify i f) where
  length := List.length_modify ..
  dismissed := by
    intro j d d' before after dismissed
    rw [List.getElem?_modify, before, Option.map_eq_map, Option.map_some, Option.some_inj] at after
    by_cases same : i = j
    · rw [if_pos same] at after
      rw [← after]
      exact keeps d (same ▸ before) dismissed
    · rw [if_neg same] at after
      rwa [← after]

/-! ## The order of interpreters -/

/-- Whether interpreter `i` has been started and its first status is waited for. -/
def Awaits (c : Control) (i : Nat) : Prop :=
  ∃ task due, c.turn = some { task, phase := .status i due }

/-- Whether no first status is waited for. -/
def AwaitsNone (c : Control) : Prop := ∀ i, ¬ c.Awaits i

/-- Every interpreter is dismissed, except the present one or one that is being started. -/
structure Orderly (c : Control) : Prop where
  others : ∀ (i : Nat) (d : Debuggee), c.debuggees[i]? = some d →
    d.Dismissed ∨ c.present = some i ∨ c.Awaits i
  alone : ∀ i, c.Awaits i → c.present = none

/-- What happens to the interpreters: those that are dismissed stay dismissed, and the order is
kept. -/
structure Keeps (c c' : Control) : Prop where
  dismissed : ∀ (i : Nat) (d : Debuggee), c.debuggees[i]? = some d → d.Dismissed →
    ∃ d' : Debuggee, c'.debuggees[i]? = some d' ∧ d'.Dismissed
  orderly : c.Orderly → c'.Orderly

variable {c c' : Control}

theorem Keeps.trans {c₁ c₂ c₃ : Control} (first : Keeps c₁ c₂) (second : Keeps c₂ c₃) :
    Keeps c₁ c₃ where
  dismissed := by
    intro i d found dismissed
    obtain ⟨d', found', dismissed'⟩ := first.dismissed i d found dismissed
    exact second.dismissed i d' found' dismissed'
  orderly := fun orderly => second.orderly (first.orderly orderly)

theorem dismissed_of_aged (aged : Aged c.debuggees c'.debuggees) (i : Nat) (d : Debuggee)
    (found : c.debuggees[i]? = some d) (dismissed : d.Dismissed) :
    ∃ d' : Debuggee, c'.debuggees[i]? = some d' ∧ d'.Dismissed := by
  obtain ⟨inside, -⟩ := List.getElem?_eq_some_iff.mp found
  rw [← aged.length] at inside
  have found' := List.getElem?_eq_getElem inside
  exact ⟨_, found', aged.dismissed found found' dismissed⟩

theorem keeps_of_aged (aged : Aged c.debuggees c'.debuggees)
    (charge : ∀ (i : Nat) (d' : Debuggee), c'.debuggees[i]? = some d' →
      c.present = some i ∨ c.Awaits i → d'.Dismissed ∨ c'.present = some i ∨ c'.Awaits i)
    (alone : c.Orderly → ∀ i, c'.Awaits i → c'.present = none) : Keeps c c' where
  dismissed := dismissed_of_aged aged
  orderly := by
    intro orderly
    refine ⟨?_, alone orderly⟩
    intro i d' found'
    obtain ⟨d, found⟩ := aged.find found'
    obtain dismissed | charged := orderly.others i d found
    · exact .inl (aged.dismissed found found' dismissed)
    · exact charge i d' found' charged

/-- Neither the present interpreter nor the turn changes. -/
theorem keeps_of_same (aged : Aged c.debuggees c'.debuggees) (present : c'.present = c.present)
    (turn : c'.turn = c.turn) : Keeps c c' := by
  refine keeps_of_aged aged ?_ ?_
  · intro i d' _ charged
    simp only [Awaits, present, turn]
    exact .inr charged
  · intro orderly i awaits
    rw [Awaits, turn] at awaits
    rw [present]
    exact orderly.alone i awaits

/-- The turn changes, and no first status is waited for. -/
theorem keeps_of_awaitsNone (aged : Aged c.debuggees c'.debuggees)
    (present : c'.present = c.present) (awaitsNone : c.AwaitsNone) (awaitsNone' : c'.AwaitsNone) :
    Keeps c c' := by
  refine keeps_of_aged aged ?_ ?_
  · intro i d' _ charged
    rw [present]
    exact .inr (.inl (charged.resolve_right (awaitsNone i)))
  · intro _ i awaits
    exact absurd awaits (awaitsNone' i)

/-! ## Errands that start nothing -/

/-- Whether an errand starts an interpreter. -/
def Errand.isStart : Errand → Bool
  | .start .. => true
  | .resume | .step _ => false

/-- Whether nothing is being started or to be started. -/
structure LaunchFree (c : Control) : Prop where
  tasks : ∀ t ∈ c.tasks, t.errand.isStart = false
  queue : ∀ t ∈ c.queue, t.errand.isStart = false
  awaitsNone : c.AwaitsNone

/-! ## Disposal -/

theorem aged_terminate (c : Control) : Aged c.debuggees c.terminate.debuggees := by
  unfold terminate
  split
  · exact aged_modify _ _ _ fun d _ _ => d.dismissed_dispose
  · exact .refl _

theorem dismissed_terminate (c : Control) (i : Nat) (d : Debuggee) (present : c.present = some i)
    (found : c.terminate.debuggees[i]? = some d) : d.Dismissed := by
  simp only [terminate, present, modifyDebuggee, List.getElem?_modify, if_true] at found
  obtain ⟨before, -, rfl⟩ := Option.map_eq_some_iff.mp found
  exact before.dismissed_dispose

theorem terminate_same (c : Control) :
    c.terminate.present = c.present ∧ c.terminate.turn = c.turn ∧ c.terminate.tasks = c.tasks ∧
      c.terminate.queue = c.queue := by
  unfold terminate
  split <;> exact ⟨rfl, rfl, rfl, rfl⟩

theorem keeps_terminate (c : Control) : Keeps c c.terminate := by
  obtain ⟨present, turn, -, -⟩ := c.terminate_same
  exact keeps_of_same c.aged_terminate present turn

/-- After a termination only an interpreter that is being started is left. -/
theorem dismissed_or_awaits (orderly : c.Orderly) (i : Nat) (d : Debuggee)
    (found : c.terminate.debuggees[i]? = some d) : d.Dismissed ∨ c.terminate.Awaits i := by
  obtain dismissed | present | awaits := ((keeps_terminate c).orderly orderly).others i d found
  · exact .inl dismissed
  · rw [c.terminate_same.1] at present
    exact .inl (dismissed_terminate c i d present found)
  · exact .inr awaits

theorem aged_disposeSession (c : Control) : Aged c.debuggees c.disposeSession.debuggees :=
  c.aged_terminate

theorem keeps_disposeSession (c : Control) : Keeps c c.disposeSession := by
  refine keeps_of_aged c.aged_disposeSession ?_ fun _ _ _ => rfl
  intro i d' found charged
  -- The present interpreter is dismissed; one that is being started is left alone.
  obtain present | awaits := charged
  · exact .inl (dismissed_terminate c i d' present found)
  · refine .inr (.inr ?_)
    rw [Awaits, ← c.terminate_same.2.1] at awaits
    exact awaits

/-! ## Activities -/

/-- What an activity does that starts no interpreter: the interpreters are the same, and if nothing
was being started or to be started, nothing is. -/
structure Continues (c c' : Control) : Prop extends Keeps c c' where
  launchFree : c.LaunchFree → c'.LaunchFree ∧ c'.debuggees.length = c.debuggees.length

theorem Continues.trans {c₁ c₂ c₃ : Control} (first : Continues c₁ c₂) (second : Continues c₂ c₃) :
    Continues c₁ c₃ where
  toKeeps := first.toKeeps.trans second.toKeeps
  launchFree := by
    intro free
    obtain ⟨free', length⟩ := first.launchFree free
    obtain ⟨free'', length'⟩ := second.launchFree free'
    exact ⟨free'', length'.trans length⟩

/-- Errands and turns are as before. -/
theorem continues_of_same (aged : Aged c.debuggees c'.debuggees) (present : c'.present = c.present)
    (turn : c'.turn = c.turn) (tasks : c'.tasks = c.tasks) (queue : c'.queue = c.queue) :
    Continues c c' where
  toKeeps := keeps_of_same aged present turn
  launchFree := by
    intro free
    refine ⟨⟨?_, ?_, ?_⟩, aged.length⟩
    · rw [tasks]
      exact free.tasks
    · rw [queue]
      exact free.queue
    · intro i awaits
      rw [Awaits, turn] at awaits
      exact free.awaitsNone i awaits

theorem continues_terminate (c : Control) : Continues c c.terminate := by
  obtain ⟨present, turn, tasks, queue⟩ := c.terminate_same
  exact continues_of_same c.aged_terminate present turn tasks queue

theorem continues_disposeSession (c : Control) : Continues c c.disposeSession where
  toKeeps := c.keeps_disposeSession
  launchFree := by
    intro free
    obtain ⟨⟨tasks, queue, awaitsNone⟩, length⟩ := c.continues_terminate.launchFree free
    exact ⟨⟨tasks, queue, awaitsNone⟩, length⟩

theorem continues_modify (c : Control) (i : Nat) (f : Debuggee → Debuggee)
    (keeps : ∀ d, c.debuggees[i]? = some d → d.Dismissed → (f d).Dismissed) :
    Continues c (c.modifyDebuggee i f) :=
  continues_of_same (aged_modify _ i f keeps) rfl rfl rfl rfl

/-- Some task's turn goes on or ends when no first status is waited for; only errands that start
nothing are added. -/
theorem continues_of_awaitsNone (aged : Aged c.debuggees c'.debuggees)
    (present : c'.present = c.present) (awaitsNone : c.AwaitsNone) (awaitsNone' : c'.AwaitsNone)
    (tasks : ∀ t ∈ c'.tasks, t ∈ c.tasks ∨ t.errand.isStart = false)
    (queue : c'.queue = c.queue) : Continues c c' where
  toKeeps := keeps_of_awaitsNone aged present awaitsNone awaitsNone'
  launchFree := by
    intro free
    refine ⟨⟨?_, ?_, awaitsNone'⟩, aged.length⟩
    · intro t member
      exact (tasks t member).elim (free.tasks t) id
    · rw [queue]
      exact free.queue

theorem continues_finish (awaitsNone : c.AwaitsNone) (t : Task) : Continues c (c.finish t) := by
  refine continues_of_awaitsNone (.refl _) rfl awaitsNone ?_ (fun _ => .inl) rfl
  rintro i ⟨task, due, turn⟩
  cases turn

theorem continues_finishRunning (awaitsNone : c.AwaitsNone) (t : Task) :
    Continues c (c.finishRunning t) := by
  refine continues_of_awaitsNone (.refl _) rfl awaitsNone ?_ ?_ rfl
  · rintro i ⟨task, due, turn⟩
    cases turn
  · intro t' member
    obtain old | new := List.mem_append.mp member
    · exact .inl old
    · rw [List.mem_singleton.mp new]
      exact .inr rfl

theorem continues_fail (awaitsNone : c.AwaitsNone) (t : Task) (e : Monitor.StartError) :
    Continues c (c.fail t e) := by
  have notified : Continues c (c.notify [.output .important e.message, .ended]) :=
    continues_of_same (.refl _) rfl rfl rfl rfl
  refine notified.trans (continues_finish ?_ t)
  exact awaitsNone

/-- An instruction is executed by an interpreter that is not dismissed. -/
theorem continues_drive (awaitsNone : c.AwaitsNone) (now : Millis) (t : Task) (i : Nat)
    {d d' : Debuggee} (stage : Stage) (waiter : Waiter) (found : c.debuggees[i]? = some d)
    (executed : d.execute? now = some (waiter, d')) :
    Continues c { c.modifyDebuggee i (fun _ => d') with
      turn := some { task := t, phase := .driving i stage waiter } } := by
  refine continues_of_awaitsNone (aged_modify _ _ _ ?_) rfl awaitsNone ?_ (fun _ => .inl) rfl
  · intro before found' dismissed
    -- A dismissed interpreter executes nothing, so this is none.
    cases found.symm.trans found'
    rw [d.execute?_dismissed now dismissed] at executed
    cases executed
  · rintro j ⟨task, due, turn⟩
    cases turn

theorem continues_follow (awaitsNone : c.AwaitsNone) (now : Millis) (t : Task) (i : Nat)
    {d : Debuggee} (decision : Decision) (found : c.debuggees[i]? = some d) :
    Continues c (c.follow now t i d decision) := by
  let noted : Control := { c.notify decision.notices with memory := decision.memory }
  have same : Continues c noted := continues_of_same (.refl _) rfl rfl rfl rfl
  have awaitsNone' : noted.AwaitsNone := awaitsNone
  unfold follow
  split
  · rename_i stage waiter d' _ executed
    exact same.trans (continues_drive awaitsNone' now t i stage waiter found executed)
  · exact same.trans (continues_finish awaitsNone' t)

theorem continues_pursuePresent (awaitsNone : c.AwaitsNone) (now : Millis) (t : Task)
    (goal : Goal) : Continues c (c.pursuePresent now t goal) := by
  unfold pursuePresent
  split
  · rename_i i d present found
    rw [debuggee?, present] at found
    exact continues_follow awaitsNone now t i _ found
  · exact continues_finish awaitsNone t

/-- The first status has come, and the interpreter becomes the present one. -/
theorem continues_install (t : Task) (i : Nat) (awaits : c.Awaits i) : Continues c (c.install t i) := by
  have only (j : Nat) (awaits' : c.Awaits j) : j = i := by
    obtain ⟨task, due, turn⟩ := awaits
    obtain ⟨task', due', turn'⟩ := awaits'
    cases turn.symm.trans turn'
    rfl
  have debuggees : (c.install t i).debuggees = c.debuggees := by
    unfold install
    split <;> rfl
  have present : (c.install t i).present = some i := by
    unfold install
    split <;> rfl
  have awaitsNone : (c.install t i).AwaitsNone := by
    rintro j ⟨task, due, turn⟩
    unfold install at turn
    split at turn <;> cases turn
  refine ⟨⟨?_, ?_⟩, fun free => absurd awaits (free.awaitsNone i)⟩
  · intro j d found dismissed
    rw [debuggees]
    exact ⟨d, found, dismissed⟩
  · intro orderly
    refine ⟨?_, fun j awaits' => absurd awaits' (awaitsNone j)⟩
    intro j d found
    rw [debuggees] at found
    rw [present]
    obtain dismissed | before | awaits' := orderly.others j d found
    · exact .inl dismissed
    · rw [orderly.alone i awaits] at before
      cases before
    · exact .inr (.inl (by rw [only j awaits']))

/-- The first status has not come in time, and the interpreter is given up. -/
theorem continues_giveUp (t : Task) (i : Nat) (awaits : c.Awaits i) (e : Monitor.StartError) :
    Continues c ((c.modifyDebuggee i Debuggee.dispose).fail t e) := by
  let gone := (c.modifyDebuggee i Debuggee.dispose).fail t e
  have awaitsNone : gone.AwaitsNone := by
    rintro j ⟨task, due, turn⟩
    cases turn
  have aged : Aged c.debuggees gone.debuggees :=
    aged_modify _ _ _ fun d _ _ => d.dismissed_dispose
  refine ⟨keeps_of_aged aged ?_ fun _ j awaits' => absurd awaits' (awaitsNone j),
    fun free => absurd awaits (free.awaitsNone i)⟩
  intro j d found charged
  obtain present | ⟨task', due', turn'⟩ := charged
  · exact .inr (.inl present)
  · refine .inl ?_
    obtain ⟨task, due, turn⟩ := awaits
    cases turn.symm.trans turn'
    have found' : (c.debuggees.modify i Debuggee.dispose)[i]? = some d := found
    simp only [List.getElem?_modify, if_true] at found'
    obtain ⟨before, -, rfl⟩ := Option.map_eq_some_iff.mp found'
    exact before.dismissed_dispose

theorem awaitsNone_of_turn {task : Task} {phase : Phase} (turn : c.turn = some { task, phase })
    (other : ∀ i due, phase ≠ .status i due) : c.AwaitsNone := by
  rintro i ⟨task', due, turn'⟩
  cases turn.symm.trans turn'
  exact other i due rfl

theorem continues_advance (now : Millis) (h : c.advance? now = some c') : Continues c c' := by
  obtain ⟨⟨task, phase⟩, turn, h⟩ := Option.bind_eq_some_iff.mp h
  cases phase with
  | status i due =>
      obtain ⟨d, found, h⟩ := Option.bind_eq_some_iff.mp h
      split at h
      · cases h
        exact continues_install task i ⟨task, due, turn⟩
      · split at h <;> cases h
        exact continues_giveUp task i ⟨task, due, turn⟩ _
  | code i =>
      have awaitsNone : c.AwaitsNone := awaitsNone_of_turn turn (by intro i due; nofun)
      obtain ⟨d, found, h⟩ := Option.bind_eq_some_iff.mp h
      split at h <;> cases h
      unfold enter
      split
      · exact continues_follow awaitsNone now task i _ found
      · exact continues_finishRunning awaitsNone task
  | driving i stage waiter =>
      have awaitsNone : c.AwaitsNone := awaitsNone_of_turn turn (by intro i due; nofun)
      obtain ⟨d, found, h⟩ := Option.bind_eq_some_iff.mp h
      split at h
      · cases h
        exact continues_follow awaitsNone now task i _ found
      · split at h <;> cases h
        exact continues_follow awaitsNone now task i _ found

theorem continues_hear (e : Monitor.Event) : Continues c (c.hear e) := by
  cases e with
  | done => exact c.continues_terminate
  | spawned | console | stdout | stderr | message | unknown | closed | failed =>
      exact continues_of_same (.refl _) rfl rfl rfl rfl

/-- An interpreter is started when the one before it has been given up. -/
theorem keeps_launch (awaitsNone : c.AwaitsNone) (now : Millis) (t : Task) (program : String)
    (debug : Bool) : Keeps c (c.launch now t program debug) := by
  let prepared : Control := { c.disposeSession with
    memory := { debug }
    launches := c.launches ++ [c.config.argumentsFor (Path.launched c.home program)] }
  have ready : Keeps c prepared := c.keeps_disposeSession.trans (keeps_of_same (.refl _) rfl rfl)
  have awaitsNone' : prepared.AwaitsNone := by
    rintro i ⟨task, due, turn⟩
    exact awaitsNone i ⟨task, due, c.terminate_same.2.1.symm.trans turn⟩
  unfold launch
  dsimp only
  split
  · exact ready.trans (continues_fail awaitsNone' t _).toKeeps
  · refine ready.trans ⟨?_, ?_⟩
    · intro i d found dismissed
      obtain ⟨inside, -⟩ := List.getElem?_eq_some_iff.mp found
      exact ⟨d, (List.getElem?_append_left inside).trans found, dismissed⟩
    · intro orderly
      refine ⟨?_, fun _ _ => rfl⟩
      intro i d found
      by_cases inside : i < prepared.debuggees.length
      · rw [List.getElem?_append_left inside] at found
        exact .inl ((orderly.others i d found).resolve_right
          (not_or.mpr ⟨nofun, awaitsNone' i⟩))
      · obtain ⟨inside', -⟩ := List.getElem?_eq_some_iff.mp found
        rw [List.length_append, List.length_singleton] at inside'
        change i < prepared.debuggees.length + 1 at inside'
        have last : i = prepared.debuggees.length := by omega
        rw [last]
        exact .inr (.inr ⟨t, _, rfl⟩)

/-- What an activity does: it goes on with what there is, or gives the turn to a start. -/
theorem perform?_cases (now : Millis) (a : Activity) (h : c.perform? now a = some c') :
    Continues c c' ∨ (Keeps c c' ∧ ¬ c.LaunchFree) := by
  cases a with
  | debuggee i a =>
      obtain ⟨d, found, h⟩ := Option.bind_eq_some_iff.mp h
      obtain ⟨d', performed, h⟩ := Option.bind_eq_some_iff.mp h
      cases h
      refine .inl (continues_modify c i _ ?_)
      intro before found' dismissed
      cases found.symm.trans found'
      exact Debuggee.dismissed_perform now a dismissed performed
  | hear =>
      obtain ⟨i, present, h⟩ := Option.bind_eq_some_iff.mp h
      obtain ⟨d, found, h⟩ := Option.bind_eq_some_iff.mp h
      obtain ⟨⟨e, d'⟩, heard, h⟩ := Option.bind_eq_some_iff.mp h
      cases h
      refine .inl ((continues_modify c i _ ?_).trans (continues_hear e))
      intro before found' dismissed
      cases found.symm.trans found'
      exact Debuggee.dismissed_hear dismissed heard
  | ask i =>
      obtain ⟨t, member, h⟩ := Option.bind_eq_some_iff.mp h
      cases h
      refine .inl ⟨keeps_of_same (.refl _) rfl rfl, fun free => ⟨⟨?_, ?_, free.awaitsNone⟩, rfl⟩⟩
      · intro t' member'
        exact free.tasks t' (List.mem_of_mem_eraseIdx member')
      · intro t' member'
        obtain old | new := List.mem_append.mp member'
        · exact free.queue t' old
        · rw [List.mem_singleton.mp new]
          exact free.tasks t (List.mem_of_getElem? member)
  | grant =>
      simp only [perform?] at h
      split at h
      · rename_i t queue turn waiting
        cases h
        have awaitsNone : c.AwaitsNone := by
          rintro i ⟨task, due, turn'⟩
          cases turn.symm.trans turn'
        have shorter : Continues c { c with queue } := by
          refine ⟨keeps_of_same (.refl _) rfl rfl, fun free => ⟨⟨free.tasks, ?_, awaitsNone⟩, rfl⟩⟩
          intro t' member
          exact free.queue t' (waiting ▸ List.mem_cons_of_mem t member)
        have awaitsNone' : ({ c with queue } : Control).AwaitsNone := awaitsNone
        unfold begin
        split
        · rename_i program stopOnEntry debug errand
          refine .inr ⟨shorter.toKeeps.trans (keeps_launch awaitsNone' now t program debug), ?_⟩
          intro free
          have idle := free.queue t (waiting ▸ List.mem_cons_self)
          rw [errand] at idle
          cases idle
        · exact .inl (shorter.trans (continues_pursuePresent awaitsNone' now t _))
        · exact .inl (shorter.trans (continues_pursuePresent awaitsNone' now t _))
      · cases h
  | advance => exact .inl (continues_advance now h)

theorem keeps_perform (now : Millis) (a : Activity) (h : c.perform? now a = some c') :
    Keeps c c' := by
  obtain continues | ⟨keeps, -⟩ := perform?_cases now a h
  · exact continues.toKeeps
  · exact keeps

/-! ## Errands and expressions -/

theorem continues_refl (c : Control) : Continues c c :=
  continues_of_same (.refl _) rfl rfl rfl rfl

theorem keeps_request (c : Control) (errand : Errand) (asker : Option Nat) :
    Keeps c (c.request errand asker) :=
  keeps_of_same (.refl _) rfl rfl

theorem continues_request (c : Control) (errand : Errand) (asker : Option Nat)
    (other : errand.isStart = false) : Continues c (c.request errand asker) where
  toKeeps := c.keeps_request errand asker
  launchFree := by
    intro free
    refine ⟨⟨?_, free.queue, free.awaitsNone⟩, rfl⟩
    intro t member
    obtain old | new := List.mem_append.mp member
    · exact free.tasks t old
    · rw [List.mem_singleton.mp new]
      exact other

theorem continues_evaluate (c : Control) (expression : String) (context : Option String) :
    Continues c (c.evaluate expression context).2 := by
  unfold evaluate
  split
  · exact c.continues_refl
  · split
    · exact c.continues_refl
    · refine continues_modify c _ _ ?_
      intro d _ dismissed
      cases sent : d.send? Interpreter.evaluateCommand (.string expression) with
      | none => exact dismissed
      | some d' => exact Debuggee.dismissed_send dismissed _ _ sent

end Control

end DebugAdapter
