import DebugAdapter.Proofs.Control.Moments
import Mathlib.Data.List.Perm.Basic
/-!
# Starts that are asked for

A start that is asked for waits as a task, then in the queue, and then has its turn, when the launcher
is called. On the way none is lost and none is made up, and nothing else calls the launcher.
-/

namespace DebugAdapter

namespace Control

/-- The starts that have not had their turn. -/
def startsToCome (c : Control) : List Task := (c.queue ++ c.tasks).filter (·.errand.isStart)

/-- The starts that `c'` has to do and `c` has not. -/
def startsAsked (c c' : Control) : List Task :=
  (c'.tasks.drop c.tasks.length).filter (·.errand.isStart)

/-- The start that gets its turn. -/
def Moment.startGranted (m : Moment) : List Task := (m.granted?.filter (·.errand.isStart)).toList

/-- Some tasks are given, and nothing else is done with tasks and launches. -/
structure Asks (c c' : Control) (new : List Task) : Prop where
  tasks : c'.tasks = c.tasks ++ new
  queue : c'.queue = c.queue
  launches : c'.launches = c.launches

variable {c c' c'' : Control} {new new' : List Task}

theorem Asks.refl (c : Control) : Asks c c [] := ⟨(List.append_nil _).symm, rfl, rfl⟩

theorem Asks.trans (first : Asks c c' new) (second : Asks c' c'' new') :
    Asks c c'' (new ++ new') where
  tasks := by rw [second.tasks, first.tasks, List.append_assoc]
  queue := second.queue.trans first.queue
  launches := second.launches.trans first.launches

theorem Asks.asked (asks : Asks c c' new) : c.startsAsked c' = new.filter (·.errand.isStart) := by
  rw [startsAsked, asks.tasks, List.drop_left]

theorem Asks.starts (asks : Asks c c' new) : c'.startsToCome = c.startsToCome ++ c.startsAsked c' := by
  rw [asks.asked, startsToCome, startsToCome, asks.queue, asks.tasks, ← List.append_assoc,
    List.filter_append]

theorem Aside.asks (aside : Aside c c') : Asks c c' [] :=
  ⟨by rw [aside.tasks, List.append_nil], aside.queue, aside.launches⟩

theorem asks_terminate (c : Control) : Asks c c.terminate [] := c.aside_terminate.asks

theorem Followed.asks {δ : Decision} (followed : Followed c c' δ) : Asks c c' [] :=
  ⟨by rw [followed.tasks, List.append_nil], followed.queue, followed.launches⟩

theorem asks_finishRunning (c : Control) (t : Task) :
    Asks c (c.finishRunning t) [{ errand := .resume }] := ⟨rfl, rfl, rfl⟩

theorem asks_install (c : Control) (t : Task) (i : Nat) :
    ∃ new, Asks c (c.install t i) new ∧ new.filter (·.errand.isStart) = [] := by
  unfold install
  split
  · exact ⟨[], ⟨(List.append_nil _).symm, rfl, rfl⟩, rfl⟩
  · exact ⟨[{ errand := .resume }], ⟨rfl, rfl, rfl⟩, rfl⟩

theorem begin_tasks (c : Control) (now : Millis) (t : Task) :
    (c.begin now t).queue = c.queue ∧ (c.begin now t).tasks = c.tasks ∧
      (c.begin now t).launches.length = c.launches.length + if t.errand.isStart then 1 else 0 := by
  have pursued (goal : Goal) : Asks c (c.pursuePresent now t goal) [] := by
    unfold pursuePresent
    split
    · exact (followed ..).asks
    · exact ⟨(List.append_nil _).symm, rfl, rfl⟩
  cases errand : t.errand with
  | start program stopOnEntry debug =>
      obtain ⟨-, -, tasks, queue⟩ := c.terminate_same
      simp only [begin, errand]
      obtain ⟨e, launched⟩ | ⟨due, launched⟩ := c.launch_cases now t program debug
      · rw [launched]
        exact ⟨queue, tasks, List.length_append⟩
      · rw [launched]
        exact ⟨queue, tasks, List.length_append⟩
  | resume =>
      obtain ⟨tasks, queue, launches⟩ := pursued .run
      rw [begin, errand]
      exact ⟨queue, tasks.trans (List.append_nil _), congrArg List.length launches⟩
  | step granularity =>
      obtain ⟨tasks, queue, launches⟩ := pursued (.step granularity .step)
      rw [begin, errand]
      exact ⟨queue, tasks.trans (List.append_nil _), congrArg List.length launches⟩

/-- What a moment does with the starts that are asked for, unless something is asked for. -/
structure Moment.Starts (m : Moment) : Prop where
  kept : List.Perm (m.startGranted ++ m.after.startsToCome) m.before.startsToCome
  unasked : m.before.startsAsked m.after = []
  launches : m.after.launches.length = m.before.launches.length + m.startGranted.length

namespace Moment

variable {m : Moment}

theorem starts_of_asks (ungranted : m.granted? = none) (asks : Asks m.before m.after new)
    (none_ : new.filter (·.errand.isStart) = []) : m.Starts where
  kept := by
    have unasked := asks.asked.trans none_
    rw [startGranted, ungranted, asks.starts, unasked, List.append_nil]
    exact .refl _
  unasked := asks.asked.trans none_
  launches := by
    rw [startGranted, ungranted, asks.launches]
    rfl

/-- A task that has its turn has left the queue. -/
theorem starts_of_granted {t : Task} (granted : m.granted? = some t) : m.Starts := by
  obtain ⟨now, queue, -, -, first, after⟩ := granted?_eq granted
  obtain ⟨queue', tasks, launches⟩ := ({ m.before with queue } : Control).begin_tasks now t
  rw [← after] at queue' tasks launches
  have granted_ : m.startGranted = if t.errand.isStart then [t] else [] := by
    cases start : t.errand.isStart <;> simp [Moment.startGranted, granted, Option.filter, start]
  constructor
  · rw [granted_, startsToCome, startsToCome, queue', tasks, first, List.cons_append,
      List.filter_cons]
    split <;> exact .refl _
  · rw [startsAsked, tasks, List.drop_length]
    rfl
  · rw [launches, granted_]
    split <;> rfl

/-- None is lost on the way to its turn, and each turn of a start calls the launcher once. -/
theorem starts_of_unasked (unasked : ∀ errand asker, m.happening ≠ .request errand asker) :
    m.Starts := by
  cases granted : m.granted? with
  | some t => exact starts_of_granted granted
  | none =>
      have stride : Stride m.before m.happening m.after := m.before.happen_stride m.happening
      have still {c' : Control} (same : m.after = c') (asks : Asks m.before c' []) : m.Starts :=
        starts_of_asks granted (same ▸ asks) rfl
      generalize happening : m.happening = h at stride
      generalize after : m.after = c' at stride
      cases stride with
      | aside new aside => exact still after aside.asks
      | closed aside => exact still after aside.asks
      | request errand asker => exact absurd happening (unasked errand asker)
      | @ask _ i t member =>
          obtain ⟨inside, rfl⟩ := List.getElem?_eq_some_iff.mp member
          have moved : List.Perm (m.after.queue ++ m.after.tasks) (m.before.queue ++ m.before.tasks) := by
            rw [after, List.append_assoc]
            exact (List.getElem_cons_eraseIdx_perm inside).append_left _
          constructor
          · rw [Moment.startGranted, granted]
            exact moved.filter _
          · rw [startsAsked, after, List.drop_eq_nil_of_le (List.length_eraseIdx_le ..)]
            rfl
          · rw [Moment.startGranted, granted, after]
            rfl
      | @launch _ now t queue program _ debug _ first errand =>
          have begun := ({ m.before with queue } : Control).begin_tasks now t
          rw [begin, errand] at begun
          exact absurd (after ▸ begun.1) (queue_ne_of_ungranted granted first)
      | nobody _ first => exact absurd (after ▸ rfl) (queue_ne_of_ungranted granted first)
      | pursue _ first =>
          exact absurd (after ▸ (followed ..).queue) (queue_ne_of_ungranted granted first)
      | install =>
          obtain ⟨new, asks, none_⟩ := asks_install m.before _ _
          exact starts_of_asks granted (after ▸ asks) none_
      | giveUp => exact still after ⟨(List.append_nil _).symm, rfl, rfl⟩
      | release => exact starts_of_asks granted (after ▸ asks_finishRunning m.before _) rfl
      | enter | drive => exact still after (followed ..).asks

end Moment

end Control

end DebugAdapter
