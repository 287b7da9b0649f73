import DebugAdapter.Proofs.Control.Succession
import DebugAdapter.Proofs.Monitor.Silence
/-!
# What can happen to execution control

Execution control goes on by activities of its own, and is told things by whoever uses it. Whatever
happens is one of a few strides; what holds of all runs is shown stride by stride. Interpreters are
told to execute instructions only by the task whose turn it is.
-/

namespace DebugAdapter

open Debuggee (Wanes)
open Monitor (Waiter)

namespace Control

/-! ## Happenings -/

/-- What can happen: an activity, something that the user of execution control asks for, or something
that an interpreter does at the other end of its pipes. -/
inductive Happening where
  | activity (now : Millis) (a : Activity)
  | request (errand : Errand) (asker : Option Nat)
  | terminate
  | breakpoints (f : Program.Breakpoints → Program.Breakpoints)
  | evaluate (expression : String) (context : Option String)
  | interpreter (i : Nat) (line : Framing.Line) (complaints : Framing.Pipe)
      (fate : Option (Option Int))

/-- Execution control afterwards; what is not possible does not happen. -/
def happen (c : Control) : Happening → Control
  | .activity now a => (c.perform? now a).getD c
  | .request errand asker => c.request errand asker
  | .terminate => c.terminate
  | .breakpoints f => c.withBreakpoints f
  | .evaluate expression context => (c.evaluate expression context).2
  | .interpreter i line complaints fate =>
    c.modifyDebuggee i fun d => { d with link := { d.link with line, complaints, fate } }

/-- Execution control after all that has happened. -/
def run (c : Control) (happenings : List Happening) : Control := happenings.foldl happen c

/-- Execution control that nothing has happened to. -/
def opening (config : Monitor.Config) (home : String) (refusal : Option Monitor.Refusal) : Control :=
  { config, home, refusal }

/-- The notices that `c'` has and `c` has not. -/
def noted (c c' : Control) : List Notice := c'.notices.drop c.notices.length

/-- How many commands to execute an instruction wait for interpreter `i`. -/
def orders (c : Control) (i : Nat) : Nat := ((c.debuggees[i]?).map Debuggee.stepOrders).getD 0

/-- Whether interpreter `i` is told to execute an instruction. -/
def Drives (c : Control) (h : Happening) (i : Nat) : Prop := c.orders i < (c.happen h).orders i

/-! ## Decisions -/

/-- The stop that a goal reports once it is reached. -/
def Goal.reason? : Goal → Option StopReason
  | .run => none
  | .step _ reason => some reason

/-- The stop that a stage reports once it is over. -/
def Stage.reason? : Stage → Option StopReason
  | .leading goal => goal.reason?
  | .stepping reason _ => some reason
  | .running .. | .trailing => none

/-- What a decision is like that is made for a step that reports `reason?` in the end, or for a
command that is no step. -/
structure Decision.Faithful (reason? : Option StopReason) (δ : Decision) : Prop where
  notices : δ.notices = [] ∨ ∃ r, δ.notices = [.stopped r]
  entry : .stopped .entry ∈ δ.notices → reason? = some .entry
  stopped : ∀ stage, δ.notices ≠ [] → δ.next = .execute stage → stage = .trailing
  goesOn : ∀ stage, δ.next = .execute stage → stage.reason? = none ∨ stage.reason? = reason?

namespace View

variable (v : View) (m : Memory)

theorem trail_trailing {stage : Stage} (h : v.trail = .execute stage) : stage = .trailing := by
  unfold trail at h
  split at h <;> cases h
  rfl

theorem faithful_trail (reason? : Option StopReason) :
    Decision.Faithful reason? { memory := m, notices := [], next := v.trail } where
  notices := .inl rfl
  entry := nofun
  stopped := fun _ silent => absurd rfl silent
  goesOn := fun _ next => .inl (by rw [v.trail_trailing next]; rfl)

theorem faithful_execute (reason? : Option StopReason) (stage : Stage)
    (same : stage.reason? = none ∨ stage.reason? = reason?) :
    Decision.Faithful reason? { memory := m, notices := [], next := .execute stage } where
  notices := .inl rfl
  entry := nofun
  stopped := fun _ silent => absurd rfl silent
  goesOn := by
    rintro _ ⟨⟩
    exact same

/-- A stop is reported, and the tear-down is stepped through. -/
theorem faithful_stop (reason? : Option StopReason) (r : StopReason)
    (entry : r = .entry → reason? = some .entry) :
    Decision.Faithful reason? { memory := m, notices := [.stopped r], next := v.trail } where
  notices := .inr ⟨r, rfl⟩
  entry := fun member => entry (Notice.stopped.inj (List.mem_singleton.mp member)).symm
  stopped := fun _ _ next => v.trail_trailing next
  goesOn := fun _ next => .inl (by rw [v.trail_trailing next]; rfl)

theorem faithful_run (reason? : Option StopReason) (leaving skipped : Option Int) :
    (v.run m leaving skipped).Faithful reason? := by
  simp only [run]
  split
  · split
    · rename_i r stops
      refine v.faithful_stop _ _ r ?_
      rintro rfl
      -- Where a running program stops there is a breakpoint.
      unfold stopReason? at stops
      simp only at stops
      repeat' split at stops
      all_goals cases stops
    · split
      · exact faithful_execute m _ _ (.inl rfl)
      · exact v.faithful_trail m _
  · exact v.faithful_trail m _

theorem faithful_arrive (reason : StopReason) : (v.arrive m reason).Faithful (some reason) :=
  v.faithful_stop _ _ reason fun same => by rw [same]

theorem faithful_begin (goal : Goal) : (v.begin m goal).Faithful goal.reason? := by
  cases goal with
  | run => exact v.faithful_run _ _ _ _
  | step granularity reason =>
      simp only [begin]
      split
      · exact faithful_execute m _ _ (.inr rfl)
      · exact v.faithful_arrive m reason

theorem faithful_lead (goal : Goal) : (v.lead m goal).Faithful goal.reason? := by
  unfold lead
  split
  · exact faithful_execute m _ _ (.inr rfl)
  · exact v.faithful_begin m goal

theorem faithful_after (executed : Bool) (stage : Stage) :
    (v.after m executed stage).Faithful stage.reason? := by
  cases stage with
  | leading goal =>
      simp only [after]
      split
      · exact v.faithful_lead m goal
      · exact v.faithful_begin m goal
  | running leaving skipped =>
      simp only [after]
      split
      · exact v.faithful_run m _ _ _
      · exact v.faithful_trail m _
  | stepping reason origin =>
      simp only [after]
      split
      · exact faithful_execute m _ _ (.inr rfl)
      · exact v.faithful_arrive m reason
  | trailing =>
      cases executed with
      | true => exact v.faithful_trail m _
      | false => exact ⟨.inl rfl, nofun, fun _ silent => absurd rfl silent, nofun⟩

/-- The tear-down is stepped through, and nothing else. -/
theorem after_trailing (executed : Bool) :
    (v.after m executed .trailing).notices = [] ∧
      ∀ stage, (v.after m executed .trailing).next = .execute stage → stage = .trailing := by
  cases executed with
  | true => exact ⟨rfl, fun _ => v.trail_trailing⟩
  | false => exact ⟨rfl, nofun⟩

end View

/-! ## Interpreters that are not driven -/

/-- The same interpreters later on; none has been told to execute an instruction. -/
structure Undriven (ds ds' : List Debuggee) : Prop where
  length : ds'.length = ds.length
  wanes : ∀ {i : Nat} {d d' : Debuggee}, ds[i]? = some d → ds'[i]? = some d' → Wanes d d'

theorem Undriven.refl (ds : List Debuggee) : Undriven ds ds where
  length := rfl
  wanes := by
    intro i d d' before after
    cases before.symm.trans after
    exact .refl d

theorem Undriven.find {ds ds' : List Debuggee} (undriven : Undriven ds ds') {i : Nat} {d' : Debuggee}
    (found : ds'[i]? = some d') : ∃ d, ds[i]? = some d := by
  obtain ⟨inside, -⟩ := List.getElem?_eq_some_iff.mp found
  rw [undriven.length] at inside
  exact ⟨ds[i], List.getElem?_eq_getElem inside⟩

theorem undriven_modify (ds : List Debuggee) (i : Nat) (f : Debuggee → Debuggee)
    (wanes : ∀ d, ds[i]? = some d → Wanes d (f d)) : Undriven ds (ds.modify i f) where
  length := List.length_modify ..
  wanes := by
    intro j d d' before after
    rw [List.getElem?_modify, before, Option.map_eq_map, Option.map_some, Option.some_inj] at after
    by_cases same : i = j
    · rw [if_pos same] at after
      exact after ▸ wanes d (same ▸ before)
    · rw [if_neg same] at after
      cases after
      exact .refl d

theorem undriven_terminate (c : Control) : Undriven c.debuggees c.terminate.debuggees := by
  unfold terminate
  split
  · exact undriven_modify _ _ _ fun d _ => d.wanes_dispose
  · exact .refl _

variable {c c' : Control}

theorem Undriven.orders (undriven : Undriven c.debuggees c'.debuggees) (i : Nat) :
    c'.orders i ≤ c.orders i := by
  unfold Control.orders
  cases found' : c'.debuggees[i]? with
  | none => exact Nat.zero_le _
  | some d' =>
      obtain ⟨d, found⟩ := undriven.find found'
      rw [found]
      exact (undriven.wanes found found').stepOrders

/-! ## Strides -/

theorem noted_eq {new : List Notice} (notices : c'.notices = c.notices ++ new) :
    noted c c' = new := by
  rw [noted, notices, List.drop_left]

/-- Whether tasks, turns and launches are as before, and nothing is forgotten. -/
structure Aside (c c' : Control) : Prop where
  undriven : Undriven c.debuggees c'.debuggees
  present : c'.present = c.present
  turn : c'.turn = c.turn
  tasks : c'.tasks = c.tasks
  queue : c'.queue = c.queue
  launches : c'.launches = c.launches
  memory : c'.memory = c.memory

theorem Aside.refl (c : Control) : Aside c c := ⟨.refl _, rfl, rfl, rfl, rfl, rfl, rfl⟩

theorem aside_modify (c : Control) (i : Nat) (f : Debuggee → Debuggee)
    (wanes : ∀ d, c.debuggees[i]? = some d → Wanes d (f d)) : Aside c (c.modifyDebuggee i f) :=
  ⟨undriven_modify _ i f wanes, rfl, rfl, rfl, rfl, rfl, rfl⟩

theorem aside_terminate (c : Control) : Aside c c.terminate := by
  obtain ⟨present, turn, tasks, queue⟩ := c.terminate_same
  refine ⟨c.undriven_terminate, present, turn, tasks, queue, ?_, ?_⟩
  all_goals
    unfold terminate
    split <;> rfl

theorem terminate_notices (c : Control) : c.terminate.notices = c.notices := by
  unfold terminate
  split <;> rfl

theorem aside_evaluate (c : Control) (expression : String) (context : Option String) :
    Aside c (c.evaluate expression context).2 ∧
      (c.evaluate expression context).2.notices = c.notices := by
  unfold evaluate
  split
  · exact ⟨.refl c, rfl⟩
  · split
    · exact ⟨.refl c, rfl⟩
    · refine ⟨aside_modify c _ _ fun d _ => ?_, rfl⟩
      cases sent : d.send? Interpreter.evaluateCommand (.string expression) with
      | none => exact .refl d
      | some d' => exact Debuggee.wanes_send (by decide) sent

/-- What a command is to achieve. -/
def Errand.goal? : Errand → Option Goal
  | .start .. => none
  | .resume => some .run
  | .step granularity => some (.step granularity .step)

/-- What happens, told by what it does to tasks and turns. -/
inductive Stride (c : Control) : Happening → Control → Prop where
  /-- At most something else than a stop is reported. -/
  | aside {h : Happening} {c' : Control} (new : List Notice) (aside : Aside c c')
      (notices : c'.notices = c.notices ++ new) (outputs : ∀ n ∈ new, ∃ g s, n = .output g s) :
      Stride c h c'
  /-- The end of the present interpreter is heard of. -/
  | closed {h : Happening} {c' : Control} {i : Nat} {d : Debuggee} {code : Option Int}
      (aside : Aside c c') (present : c.present = some i) (found : c.debuggees[i]? = some d)
      (heard : .closed code ∈ d.news) (notices : c'.notices = c.notices ++ [.ended]) : Stride c h c'
  | request (errand : Errand) (asker : Option Nat) :
      Stride c (.request errand asker) (c.request errand asker)
  | ask {h : Happening} {i : Nat} {t : Task} (member : c.tasks[i]? = some t) :
      Stride c h { c with tasks := c.tasks.eraseIdx i, queue := c.queue ++ [t] }
  /-- A start gets its turn. -/
  | launch {h : Happening} {now : Millis} {t : Task} {queue : List Task} {program : String}
      {stopOnEntry debug : Bool} (idle : c.turn = none) (first : c.queue = t :: queue)
      (errand : t.errand = .start program stopOnEntry debug) :
      Stride c h (({ c with queue } : Control).launch now t program debug)
  /-- Some other task gets its turn, and there is no interpreter. -/
  | nobody {h : Happening} {t : Task} {queue : List Task} (idle : c.turn = none)
      (first : c.queue = t :: queue) (other : t.errand.isStart = false) :
      Stride c h (({ c with queue } : Control).finish t)
  | pursue {h : Happening} {now : Millis} {t : Task} {queue : List Task} {i : Nat} {d : Debuggee}
      {δ : Decision} {reason? : Option StopReason} (idle : c.turn = none)
      (first : c.queue = t :: queue) (other : t.errand.isStart = false) (present : c.present = some i)
      (found : c.debuggees[i]? = some d) (faithful : δ.Faithful reason?)
      (reason : reason? ≠ some .entry) (granted : h = .activity now .grant)
      (decided : ∃ goal, t.errand.goal? = some goal ∧ δ = (c.view d now).lead c.memory goal) :
      Stride c h (({ c with queue } : Control).follow now t i d δ)
  /-- A new interpreter has reported its first status. -/
  | install {h : Happening} {t : Task} {i : Nat} {due : Millis}
      (turn : c.turn = some { task := t, phase := .status i due }) : Stride c h (c.install t i)
  | giveUp {h : Happening} {t : Task} {i : Nat} {due : Millis} {e : Monitor.StartError}
      (turn : c.turn = some { task := t, phase := .status i due }) :
      Stride c h ((c.modifyDebuggee i Debuggee.dispose).fail t e)
  /-- The code has been fetched, and the program runs. -/
  | release {h : Happening} {t : Task} {i : Nat}
      (turn : c.turn = some { task := t, phase := .code i }) : Stride c h (c.finishRunning t)
  /-- The code has been fetched, and the program has to stop on entry. -/
  | enter {h : Happening} {now : Millis} {t : Task} {i : Nat} {d : Debuggee} {δ : Decision}
      {program : String} {debug : Bool} (turn : c.turn = some { task := t, phase := .code i })
      (errand : t.errand = .start program true debug) (found : c.debuggees[i]? = some d)
      (faithful : δ.Faithful (some .entry)) (advanced : h = .activity now .advance)
      (decided : δ = (c.view d now).lead c.memory (.step .instruction .entry)) :
      Stride c h (c.follow now t i d δ)
  /-- The task whose turn it is has executed an instruction, or has not. -/
  | drive {h : Happening} {now : Millis} {t : Task} {i : Nat} {d : Debuggee} {δ : Decision}
      {stage : Stage} {waiter : Waiter}
      (turn : c.turn = some { task := t, phase := .driving i stage waiter })
      (found : c.debuggees[i]? = some d) (faithful : δ.Faithful stage.reason?)
      (trailing : stage = .trailing → δ.notices = [] ∧
        ∀ stage', δ.next = .execute stage' → stage' = .trailing)
      (advanced : h = .activity now .advance)
      (decided : δ = (c.view d now).after c.memory (d.monitor.hasRefreshed waiter) stage)
      (waited : d.monitor.hasRefreshed waiter = true ∨ waiter.due ≤ now) :
      Stride c h (c.follow now t i d δ)

theorem stride_pursuePresent (now : Millis) {t : Task} {queue : List Task}
    {goal : Goal} (idle : c.turn = none) (first : c.queue = t :: queue)
    (other : t.errand.isStart = false) (reason : goal.reason? ≠ some .entry)
    (wanted : t.errand.goal? = some goal) :
    Stride c (.activity now .grant) (({ c with queue } : Control).pursuePresent now t goal) := by
  unfold pursuePresent
  split
  · rename_i i d present found
    have present' : c.present = some i := present
    rw [debuggee?, present] at found
    exact .pursue idle first other present' found (View.faithful_lead _ _ goal) reason rfl
      ⟨goal, wanted, rfl⟩
  · exact .nobody idle first other

theorem stride_begin (now : Millis) {t : Task} {queue : List Task}
    (idle : c.turn = none) (first : c.queue = t :: queue) :
    Stride c (.activity now .grant) (({ c with queue } : Control).begin now t) := by
  unfold begin
  split
  · rename_i errand
    exact .launch idle first errand
  · rename_i errand
    exact stride_pursuePresent now idle first (by rw [errand]; rfl) nofun (by rw [errand]; rfl)
  · rename_i errand
    exact stride_pursuePresent now idle first (by rw [errand]; rfl) nofun (by rw [errand]; rfl)

theorem stride_advance {now : Millis} (advanced : c.advance? now = some c') :
    Stride c (.activity now .advance) c' := by
  obtain ⟨⟨task, phase⟩, turn, advanced⟩ := Option.bind_eq_some_iff.mp advanced
  cases phase with
  | status i due =>
      obtain ⟨d, found, advanced⟩ := Option.bind_eq_some_iff.mp advanced
      split at advanced
      · cases advanced
        exact .install turn
      · split at advanced <;> cases advanced
        exact .giveUp turn
  | code i =>
      obtain ⟨d, found, advanced⟩ := Option.bind_eq_some_iff.mp advanced
      split at advanced <;> cases advanced
      unfold enter
      split
      · rename_i errand
        exact .enter turn errand found (View.faithful_lead _ _ (.step .instruction .entry)) rfl rfl
      · exact .release turn
  | driving i stage waiter =>
      obtain ⟨d, found, advanced⟩ := Option.bind_eq_some_iff.mp advanced
      have went (waited : d.monitor.hasRefreshed waiter = true ∨ waiter.due ≤ now) :
          Stride c (.activity now .advance) (c.follow now task i d
            ((c.view d now).after c.memory (d.monitor.hasRefreshed waiter) stage)) := by
        refine .drive turn found (View.faithful_after _ _ _ _) ?_ rfl rfl waited
        rintro rfl
        exact View.after_trailing _ _ _
      split at advanced
      · rename_i refreshed
        cases advanced
        exact refreshed ▸ went (.inl refreshed)
      · rename_i late
        rw [Bool.not_eq_true] at late
        split at advanced
        · rename_i due
          cases advanced
          exact late ▸ went (.inr due)
        · cases advanced

theorem stride_hear {h : Happening} {i : Nat} {d d' : Debuggee} {e : Monitor.Event}
    (present : c.present = some i) (found : c.debuggees[i]? = some d)
    (heard : d.hear? = some (e, d')) : Stride c h ((c.modifyDebuggee i fun _ => d').hear e) := by
  have listened : Aside c (c.modifyDebuggee i fun _ => d') := by
    refine aside_modify c i _ fun before same => ?_
    cases found.symm.trans same
    exact Debuggee.wanes_hear heard
  cases e with
  | closed code =>
      have waiting : .closed code ∈ d.news := by
        simp only [Debuggee.hear?] at heard
        split at heard <;> cases heard
        rename_i news
        rw [news]
        exact List.mem_cons_self
      exact .closed { listened with } present found waiting rfl
  | done =>
      obtain ⟨undriven, present', turn, tasks, queue, launches, memory⟩ :=
        aside_terminate (c.modifyDebuggee i fun _ => d')
      refine .aside [] ⟨?_, present', turn, tasks, queue, launches, memory⟩ ?_ (by simp)
      · refine ⟨undriven.length.trans listened.undriven.length, ?_⟩
        intro j before after found' found''
        obtain ⟨between, middle⟩ := undriven.find found''
        exact (listened.undriven.wanes found' middle).trans (undriven.wanes middle found'')
      · exact (terminate_notices _).trans (List.append_nil _).symm
  | console | stdout | stderr | failed =>
      exact .aside [.output _ _] { listened with } rfl (by simp)
  | spawned | message | unknown => exact .aside [] listened (List.append_nil _).symm (by simp)

theorem happen_stride (c : Control) (h : Happening) : Stride c h (c.happen h) := by
  cases h with
  | activity now a =>
      rw [happen]
      cases performed : c.perform? now a with
      | none => exact .aside [] (.refl c) (List.append_nil _).symm (by simp)
      | some c' =>
          rw [Option.getD_some]
          cases a with
          | debuggee i a =>
              obtain ⟨d, found, performed⟩ := Option.bind_eq_some_iff.mp performed
              obtain ⟨d', moved, performed⟩ := Option.bind_eq_some_iff.mp performed
              cases performed
              refine .aside [] (aside_modify c i _ fun before same => ?_) (List.append_nil _).symm
                (by simp)
              cases found.symm.trans same
              exact Debuggee.wanes_perform moved
          | hear =>
              obtain ⟨i, present, performed⟩ := Option.bind_eq_some_iff.mp performed
              obtain ⟨d, found, performed⟩ := Option.bind_eq_some_iff.mp performed
              obtain ⟨⟨e, d'⟩, heard, performed⟩ := Option.bind_eq_some_iff.mp performed
              cases performed
              exact stride_hear present found heard
          | ask i =>
              obtain ⟨t, member, performed⟩ := Option.bind_eq_some_iff.mp performed
              cases performed
              exact .ask member
          | grant =>
              simp only [perform?] at performed
              split at performed
              · rename_i idle first
                cases performed
                exact stride_begin now idle first
              · cases performed
          | advance => exact stride_advance performed
  | request errand asker => exact .request errand asker
  | terminate =>
      exact .aside [] c.aside_terminate (c.terminate_notices.trans (List.append_nil _).symm) (by simp)
  | breakpoints f => exact .aside [] { Aside.refl c with } (List.append_nil _).symm (by simp)
  | evaluate expression context =>
      obtain ⟨aside, notices⟩ := c.aside_evaluate expression context
      exact .aside [] aside (notices.trans (List.append_nil _).symm) (by simp)
  | interpreter i line complaints fate =>
      exact .aside [] (aside_modify c i _ fun d _ => d.wanes_outside line complaints fate)
        (List.append_nil _).symm (by simp)

/-! ## Carrying out a decision -/

/-- A decision is carried out: an interpreter that can be told to execute an instruction is told so
if that comes next; otherwise the turn is over. -/
theorem follow_cases (c : Control) (now : Millis) (t : Task) (i : Nat) (d : Debuggee) (δ : Decision) :
    (∃ stage waiter d', δ.next = .execute stage ∧ d.execute? now = some (waiter, d') ∧
        c.follow now t i d δ =
          { (({ c.notify δ.notices with memory := δ.memory } : Control).modifyDebuggee i
              fun _ => d') with
            turn := some { task := t, phase := .driving i stage waiter } }) ∨
      c.follow now t i d δ = ({ c.notify δ.notices with memory := δ.memory } : Control).finish t := by
  unfold follow
  split
  · rename_i stage waiter d' next executed
    exact .inl ⟨stage, waiter, d', next, executed, rfl⟩
  · exact .inr rfl

/-- Carrying out a decision changes neither the present interpreter nor what is to be done. -/
structure Followed (c c' : Control) (δ : Decision) : Prop where
  present : c'.present = c.present
  tasks : c'.tasks = c.tasks
  queue : c'.queue = c.queue
  launches : c'.launches = c.launches
  notices : c'.notices = c.notices ++ δ.notices
  memory : c'.memory = δ.memory

theorem followed (c : Control) (now : Millis) (t : Task) (i : Nat) (d : Debuggee) (δ : Decision) :
    Followed c (c.follow now t i d δ) δ := by
  obtain ⟨stage, waiter, d', -, -, followed⟩ | followed := c.follow_cases now t i d δ
  · rw [followed]
    exact ⟨rfl, rfl, rfl, rfl, rfl, rfl⟩
  · rw [followed]
    exact ⟨rfl, rfl, rfl, rfl, rfl, rfl⟩

/-! ## Launches -/

/-- The present interpreter is given up for a new one. -/
def prepared (c : Control) (program : String) (debug : Bool) : Control :=
  { c.disposeSession with
    memory := { debug }
    launches := c.launches ++ [c.config.argumentsFor (Path.launched c.home program)] }

theorem launch_cases (c : Control) (now : Millis) (t : Task) (program : String) (debug : Bool) :
    (∃ e, c.launch now t program debug = (c.prepared program debug).fail t e) ∨
      ∃ due, c.launch now t program debug =
        { (c.prepared program debug) with
          debuggees := (c.prepared program debug).debuggees ++ [.start c.terminate.config now]
          turn := some
            { task := t, phase := .status (c.prepared program debug).debuggees.length due } } := by
  unfold launch
  dsimp only
  split
  · rename_i reason _
    exact .inl ⟨.refused reason, rfl⟩
  · exact .inr ⟨_, rfl⟩

theorem launch_launches (c : Control) (now : Millis) (t : Task) (program : String) (debug : Bool) :
    ∃ arguments, (c.launch now t program debug).launches = c.launches ++ [arguments] := by
  obtain ⟨e, launched⟩ | ⟨due, launched⟩ := c.launch_cases now t program debug
  · exact ⟨_, congrArg launches launched⟩
  · exact ⟨_, congrArg launches launched⟩

theorem launch_debuggees (c : Control) (now : Millis) (t : Task) (program : String) (debug : Bool) :
    (c.launch now t program debug).debuggees = (c.prepared program debug).debuggees ∨
      (c.launch now t program debug).debuggees =
        (c.prepared program debug).debuggees ++ [.start c.terminate.config now] := by
  obtain ⟨e, launched⟩ | ⟨due, launched⟩ := c.launch_cases now t program debug
  · rw [launched]
    exact .inl rfl
  · rw [launched]
    exact .inr rfl

theorem undriven_prepared (c : Control) (program : String) (debug : Bool) :
    Undriven c.debuggees (c.prepared program debug).debuggees := c.undriven_terminate

/-- A launch leaves none of the interpreters before it. -/
theorem dismissed_prepared (orderly : c.Orderly) (idle : c.turn = none) (program : String)
    (debug : Bool) : ∀ d ∈ (c.prepared program debug).debuggees, d.Dismissed := by
  intro d member
  obtain ⟨i, found⟩ := List.getElem?_of_mem member
  refine (dismissed_or_awaits orderly i d found).resolve_right ?_
  rintro ⟨task, due, turn⟩
  rw [c.terminate_same.2.1, idle] at turn
  cases turn

/-! ## Invariants -/

/-- Whether a turn is about the present interpreter, and only a start that has to stop on entry
reports such a stop. -/
def Turn.Attends (present : Option Nat) (turn : Turn) : Prop :=
  match turn.phase with
  | .status .. => True
  | .code i => present = some i ∧ ∃ program stopOnEntry, turn.task.errand = .start program stopOnEntry true
  | .driving i stage _ => present = some i ∧
    (stage.reason? = some .entry → ∃ program, turn.task.errand = .start program true true)

/-- What holds of execution control at any time. -/
structure Sound (c : Control) : Prop where
  orderly : c.Orderly
  candid : ∀ d ∈ c.debuggees, d.Candid
  attends : ∀ turn, c.turn = some turn → turn.Attends c.present

theorem sound_opening (config : Monitor.Config) (home : String) (refusal : Option Monitor.Refusal) :
    (opening config home refusal).Sound where
  orderly := ⟨by simp [opening], by rintro i ⟨task, due, turn⟩; cases turn⟩
  candid := by simp [opening]
  attends := by
    intro turn none_
    cases none_

theorem keeps_happen (c : Control) (h : Happening) : Keeps c (c.happen h) := by
  cases h with
  | activity now a =>
      rw [happen]
      cases performed : c.perform? now a with
      | none => exact c.continues_refl.toKeeps
      | some c' => exact keeps_perform now a performed
  | request errand asker => exact c.keeps_request errand asker
  | terminate => exact c.keeps_terminate
  | breakpoints f => exact keeps_of_same (.refl _) rfl rfl
  | evaluate expression context => exact (c.continues_evaluate expression context).toKeeps
  | interpreter i line complaints fate =>
      refine (continues_modify c i _ ?_).toKeeps
      intro d _ dismissed
      exact ⟨dismissed.disposed, dismissed.leaving⟩

theorem Undriven.candid (undriven : Undriven c.debuggees c'.debuggees)
    (candid : ∀ d ∈ c.debuggees, d.Candid) : ∀ d ∈ c'.debuggees, d.Candid := by
  intro d' member
  obtain ⟨i, found'⟩ := List.getElem?_of_mem member
  obtain ⟨d, found⟩ := undriven.find found'
  exact (undriven.wanes found found').candid (candid d (List.mem_of_getElem? found))

theorem candid_follow (candid : ∀ d ∈ c.debuggees, d.Candid) {now : Millis} {t : Task} {i : Nat}
    {d : Debuggee} {δ : Decision} (found : c.debuggees[i]? = some d) :
    ∀ x ∈ (c.follow now t i d δ).debuggees, x.Candid := by
  obtain ⟨stage, waiter, d', -, executed, followed⟩ | followed := c.follow_cases now t i d δ
  · rw [followed]
    intro d'' member
    obtain ⟨j, found'⟩ := List.getElem?_of_mem member
    have found' : (c.debuggees.modify i fun _ => d')[j]? = some d'' := found'
    rw [List.getElem?_modify] at found'
    obtain ⟨before, before_, same⟩ := Option.map_eq_some_iff.mp found'
    have earlier : before.Candid := candid before (List.mem_of_getElem? before_)
    split at same
    · cases same
      exact Debuggee.candid_execute executed (candid d (List.mem_of_getElem? found))
    · cases same
      exact earlier
  · rw [followed]
    exact candid

/-- Whose turn it is after a decision. -/
theorem attends_follow {now : Millis} {t : Task} {i : Nat} {d : Debuggee} {δ : Decision}
    {reason? : Option StopReason} (faithful : δ.Faithful reason?) (present : c.present = some i)
    (entry : reason? = some .entry → ∃ program, t.errand = .start program true true)
    (turn : Turn) (next : (c.follow now t i d δ).turn = some turn) :
    turn.Attends (c.follow now t i d δ).present := by
  obtain ⟨stage, waiter, d', goesOn, -, followed⟩ | followed := c.follow_cases now t i d δ
  · rw [followed] at next ⊢
    cases next
    refine ⟨present, fun reason => entry ?_⟩
    obtain none_ | same := faithful.goesOn stage goesOn
    · rw [none_] at reason
      cases reason
    · exact same.symm.trans reason
  · rw [followed] at next
    cases next

theorem candid_happen (candid : ∀ d ∈ c.debuggees, d.Candid) (h : Happening) :
    ∀ d ∈ (c.happen h).debuggees, d.Candid := by
  have stride := c.happen_stride h
  generalize c.happen h = c' at stride ⊢
  cases stride with
  | aside new aside => exact aside.undriven.candid candid
  | closed aside => exact aside.undriven.candid candid
  | request | ask | nobody | release => exact candid
  | @launch _ now t queue program _ debug _ _ _ =>
      have ready : ∀ d ∈ (({ c with queue } : Control).prepared program debug).debuggees, d.Candid :=
        (undriven_prepared { c with queue } program debug).candid candid
      obtain same | one_more := ({ c with queue } : Control).launch_debuggees now t program debug
      · rw [same]
        exact ready
      · rw [one_more]
        intro d member
        obtain old | new := List.mem_append.mp member
        · exact ready d old
        · rw [List.mem_singleton.mp new]
          exact Debuggee.candid_start _ _
  | @pursue _ now t queue _ _ _ _ _ _ _ _ found =>
      exact candid_follow (c := { c with queue }) candid found
  | install =>
      intro d member
      refine candid d ?_
      unfold install at member
      split at member <;> exact member
  | giveUp =>
      exact (undriven_modify _ _ _ fun d _ => d.wanes_dispose).candid (c := c) candid
  | enter _ _ found => exact candid_follow candid found
  | drive _ found => exact candid_follow candid found

theorem attends_happen (sound : c.Sound) (h : Happening) :
    ∀ turn, (c.happen h).turn = some turn → turn.Attends (c.happen h).present := by
  have stride := c.happen_stride h
  generalize c.happen h = c' at stride ⊢
  cases stride with
  | aside new aside =>
      rw [aside.turn, aside.present]
      exact sound.attends
  | closed aside =>
      rw [aside.turn, aside.present]
      exact sound.attends
  | request | ask => exact sound.attends
  | @launch _ now t queue program _ debug _ _ _ =>
      intro turn next
      obtain ⟨e, launched⟩ | ⟨due, launched⟩ :=
        ({ c with queue } : Control).launch_cases now t program debug
      · rw [launched] at next
        cases next
      · rw [launched] at next
        cases next
        exact trivial
  | nobody | giveUp | release =>
      intro turn none_
      cases none_
  | pursue _ _ _ present found faithful reason =>
      exact attends_follow faithful present fun entry => absurd entry reason
  | @install _ t i due _ =>
      intro turn next
      unfold install at next ⊢
      split at next
      · rename_i program stopOnEntry errand
        cases next
        exact ⟨rfl, program, stopOnEntry, errand⟩
      · cases next
  | enter turn errand found faithful =>
      have entered := sound.attends _ turn
      obtain ⟨present, program, stopOnEntry, errand'⟩ := entered
      refine attends_follow faithful present fun _ => ⟨program, ?_⟩
      cases errand.symm.trans errand'
      exact errand
  | drive turn found faithful =>
      obtain ⟨present, entry⟩ := sound.attends _ turn
      exact attends_follow faithful present entry

theorem length_follow (c : Control) (now : Millis) (t : Task) (i : Nat) (d : Debuggee) (δ : Decision) :
    (c.follow now t i d δ).debuggees.length = c.debuggees.length := by
  obtain ⟨stage, waiter, d', -, -, followed⟩ | followed := c.follow_cases now t i d δ
  · rw [followed]
    exact List.length_modify ..
  · rw [followed]
    rfl

theorem length_happen (c : Control) (h : Happening) :
    c.debuggees.length ≤ (c.happen h).debuggees.length := by
  have stride := c.happen_stride h
  generalize c.happen h = c' at stride ⊢
  cases stride with
  | aside new aside => exact aside.undriven.length.ge
  | closed aside => exact aside.undriven.length.ge
  | request | ask | nobody | release => exact Nat.le_refl _
  | @launch _ now t queue program _ debug _ _ _ =>
      have before := (undriven_prepared { c with queue } program debug).length
      obtain same | one_more := ({ c with queue } : Control).launch_debuggees now t program debug
      · rw [same]
        exact before.ge
      · rw [one_more, List.length_append]
        exact before.ge.trans (Nat.le_add_right ..)
  | install =>
      unfold install
      split <;> exact Nat.le_refl _
  | giveUp => exact (List.length_modify ..).ge
  | @pursue _ now t queue i d δ => exact (length_follow { c with queue } now t i d δ).ge
  | enter | drive => exact (length_follow ..).ge

theorem sound_happen (sound : c.Sound) (h : Happening) : (c.happen h).Sound :=
  ⟨(c.keeps_happen h).orderly sound.orderly, candid_happen sound.candid h, attends_happen sound h⟩

theorem sound_run (sound : c.Sound) (happenings : List Happening) : (c.run happenings).Sound := by
  induction happenings generalizing c with
  | nil => exact sound
  | cons h happenings ih => exact ih (sound_happen sound h)

theorem launches_happen (c : Control) (h : Happening) : c.launches <+: (c.happen h).launches := by
  have stride := c.happen_stride h
  generalize c.happen h = c' at stride ⊢
  cases stride with
  | aside new aside => rw [aside.launches]
  | closed aside => rw [aside.launches]
  | request | ask | nobody | giveUp | release => exact List.prefix_refl _
  | @launch _ now t queue program _ debug _ _ _ =>
      obtain ⟨arguments, launches⟩ :=
        ({ c with queue } : Control).launch_launches now t program debug
      rw [launches]
      exact List.prefix_append _ _
  | pursue | enter | drive => rw [(followed ..).launches]
  | install =>
      unfold install
      split <;> exact List.prefix_refl _

theorem launches_run (c : Control) (happenings : List Happening) :
    c.launches <+: (c.run happenings).launches := by
  induction happenings generalizing c with
  | nil => exact List.prefix_refl _
  | cons h happenings ih => exact (c.launches_happen h).trans (ih (c.happen h))

theorem run_append (c : Control) (first second : List Happening) :
    c.run (first ++ second) = (c.run first).run second := List.foldl_append

theorem unlaunched_run (first second : List Happening)
    (unlaunched : (c.run (first ++ second)).launches = c.launches) :
    (c.run first).launches = c.launches := by
  refine ((c.launches_run first).eq_of_length_le ?_).symm
  rw [← unlaunched, run_append]
  exact ((c.run first).launches_run second).length_le

/-! ## What interpreters do in a run -/

/-- Activities of interpreter `i`. -/
def doing (i : Nat) (now : Millis) (activities : List Debuggee.Activity) : List Happening :=
  activities.map fun a => .activity now (.debuggee i a)

/-- Interpreter `i` answers questions, and the answers are settled. -/
def answering (i : Nat) (now : Millis) (answers : List (String × Json)) : List Happening :=
  let effects : List (Channel.Effect Monitor.Query) :=
    answers.map fun (id, data) => .write { type := "", id := "", reply := some id, data }
  .interpreter i { inbound := { octets := Channel.Link.written {} effects } } {} none ::
    doing i now (answers.map (fun _ => .link .read) ++ answers.map fun _ => .settle 0)

/-- Interpreter `i` goes through a tick; the first question has number `id`. -/
def ticking (i : Nat) (now : Millis) (id : Nat) (state : String) : List Happening :=
  doing i now [.poll, .link .command, .link .command, .link .command, .link .command] ++
    answering i now [(toString id, .null), (toString (id + 1), .null), (toString (id + 2), .null),
      (toString (id + 3), .string state)]

end Control

end DebugAdapter
