import DebugAdapter.Proofs.Control.Aftermath
/-!
# Running on

A command to run on steps through the set-up, runs the program's own code, and steps through the
tear-down. If the interpreter's states come in the order of a program's life, and it does what it is
asked to, then such a command is over only when a stop has been reported or the program has been
executed. There is one exception: an interpreter that is initialized and has begun nothing is in no
state in which the command would go on, and it is left there without a word.
-/

namespace DebugAdapter

open Monitor (Waiter)

/-! ## The life of a program -/

namespace Interpreter.State

/-- When a state comes in the life of a program. An interpreter that is still loading, or is gone, is
in none of its states. -/
def place? : State → Option Nat
  | initialized => some 0
  | setGlobalVariables => some 1
  | callCodeEntry => some 2
  | callUpdate => some 3
  | callCodeEnd => some 4
  | disposeGlobalVariables => some 5
  | codeExecuted => some 6
  | loading | destroyed => none

/-- Whether a program is that far. -/
def Reaches (n : Nat) (s : State) : Prop := ∃ k ∈ s.place?, n ≤ k

/-- Whether a state may come after another one, or is the same. -/
def Precedes (s s' : State) : Prop := ∃ k ∈ s.place?, s'.Reaches k

instance (n : Nat) (s : State) : Decidable (s.Reaches n) :=
  inferInstanceAs (Decidable (∃ k ∈ s.place?, n ≤ k))

instance (s s' : State) : Decidable (s.Precedes s') :=
  inferInstanceAs (Decidable (∃ k ∈ s.place?, s'.Reaches k))

variable {s s' : State} {n : Nat}

theorem Reaches.later (reaches : s.Reaches n) (precedes : s.Precedes s') : s'.Reaches n := by
  obtain ⟨k, here, le⟩ := reaches
  obtain ⟨k', here', k'', there, le'⟩ := precedes
  cases Option.some.inj (here.symm.trans here')
  exact ⟨k'', there, le.trans le'⟩

theorem reaches_one (precedes : s.Precedes s') (begun : s ≠ .initialized) : s.Reaches 1 := by
  obtain ⟨k, here, -⟩ := precedes
  refine ⟨k, here, ?_⟩
  cases s <;> cases here <;> first | decide | exact absurd rfl begun

theorem reaches_running (running : s.isRunningCode = true) : s.Reaches 2 := by
  cases s <;> first | decide | cases running

/-- A program that has begun and is neither running nor being set up or torn down is over. -/
theorem eq_codeExecuted (reaches : s.Reaches 1) (idle : s.isRunningCode = false)
    (unattended : s.isBootstrap = false) : s = .codeExecuted := by
  revert reaches idle unattended
  cases s <;> decide

/-- After the program's own code only the tear-down is stepped through. -/
theorem reaches_tearDown (reaches : s.Reaches 2) (attended : s.isBootstrap = true) :
    s.Reaches 5 := by
  revert reaches attended
  cases s <;> decide

theorem not_running_of_tearDown (reaches : s.Reaches 5) : s.isRunningCode = false := by
  revert reaches
  cases s <;> decide

end Interpreter.State

namespace Control

open Interpreter (State)

/-! ## Decisions -/

namespace View

/-- Whether the interpreter takes the instruction that it would be asked to execute. -/
def Serves (v : View) (decision : View → Decision) : Prop :=
  (decision { v with able := true }).next ≠ .finished → v.able = true

instance (v : View) (decision : View → Decision) : Decidable (v.Serves decision) :=
  inferInstanceAs (Decidable (_ → _))

end View

/-- What is known at a stage of a command to run on; `told` says whether a stop has been reported. -/
def Stage.Onward (told : Prop) (s : State) : Stage → Prop
  | .leading goal => goal = .run ∧ s.Reaches 1
  | .running .. => s.Reaches 2
  | .stepping .. => False
  | .trailing => told ∨ s.Reaches 5

/-- What is known of a decision about such a command. -/
def Decision.Onward (told : Prop) (s : State) (δ : Decision) : Prop :=
  let told' := told ∨ ∃ reason, .stopped reason ∈ δ.notices
  match δ.next with
  | .execute stage => stage.Onward told' s
  | .finished => told' ∨ s = .codeExecuted

theorem Stage.Onward.later {told told' : Prop} {s s' : State} {stage : Stage}
    (onward : stage.Onward told s) (more : told → told') (precedes : s.Precedes s') :
    stage.Onward told' s' := by
  cases stage with
  | leading goal => exact ⟨onward.1, onward.2.later precedes⟩
  | running => exact State.Reaches.later onward precedes
  | stepping => exact onward
  | trailing => exact onward.imp more (·.later precedes)

namespace View

variable {told : Prop} {v : View} {m : Memory}

/-! An interpreter that cannot be told to execute an instruction is not asked to. -/

section

variable (unable : v.able = false)
include unable

theorem trail_unable : v.trail = .finished := by simp [trail, unable]

theorem run_unable (leaving skipped : Option Int) : (v.run m leaving skipped).next = .finished := by
  unfold run
  split
  · dsimp only
    split
    · exact trail_unable unable
    · rw [if_neg (by simp [unable])]
      exact trail_unable unable
  · exact trail_unable unable

theorem lead_unable (goal : Goal) : (v.lead m goal).next = .finished := by
  rw [lead, unable, Bool.and_false, if_neg Bool.false_ne_true]
  cases goal with
  | run => exact run_unable unable _ _
  | step granularity reason =>
      rw [begin, unable, if_neg Bool.false_ne_true]
      exact trail_unable unable

theorem after_unable (stage : Stage) : (v.after m true stage).next = .finished := by
  cases stage with
  | leading goal => exact lead_unable unable goal
  | running leaving skipped => exact run_unable unable leaving skipped
  | stepping reason origin =>
      simp only [after, unable, Bool.and_false, Bool.false_eq_true, if_false]
      exact trail_unable unable
  | trailing => exact trail_unable unable

end

/-- The tear-down is stepped through, unless there is none. -/
theorem onward_trail {notices : List Notice}
    (able : v.snapshot.state.isBootstrap = true → v.able = true)
    (attended : v.snapshot.state.isBootstrap = true →
      (told ∨ ∃ reason, .stopped reason ∈ notices) ∨ v.snapshot.state.Reaches 5)
    (unattended : v.snapshot.state.isBootstrap = false →
      (told ∨ ∃ reason, .stopped reason ∈ notices) ∨ v.snapshot.state = .codeExecuted) :
    Decision.Onward told v.snapshot.state { memory := m, notices, next := v.trail } := by
  unfold trail
  cases tearing : v.snapshot.state.isBootstrap with
  | true =>
      rw [able tearing]
      exact attended tearing
  | false => exact unattended tearing

theorem onward_run {leaving skipped : Option Int} (serves : v.Serves (·.run m leaving skipped))
    (reached : v.snapshot.state.Reaches 2 ∨
      v.snapshot.state.Reaches 1 ∧ v.snapshot.state.isBootstrap = false) :
    (v.run m leaving skipped).Onward told v.snapshot.state := by
  have begun : v.snapshot.state.Reaches 1 := by
    obtain ⟨k, here, le⟩ | ⟨begun, -⟩ := reached
    · exact ⟨k, here, Nat.le_trans (by decide) le⟩
    · exact begun
  cases running : v.snapshot.state.isRunningCode with
  | true =>
      have own : v.snapshot.state.isBootstrap = false := by
        cases state : v.snapshot.state <;> rw [state] at running <;> first | rfl | cases running
      cases stops : v.stopReason? m.debug (v.stillLeaving leaving) skipped with
      | some reason =>
          simp only [run, running, stops, if_true]
          apply onward_trail
          · exact fun attended => absurd (own.symm.trans attended) (by decide)
          · exact fun _ => .inl (.inr ⟨reason, List.mem_singleton_self _⟩)
          · exact fun _ => .inl (.inr ⟨reason, List.mem_singleton_self _⟩)
      | none =>
          have stops' : ({ v with able := true } : View).stopReason? m.debug
              (({ v with able := true } : View).stillLeaving leaving) skipped = none := stops
          have able : v.able = true := by
            apply serves
            simp [run, running, stops']
          simp only [run, running, stops, able, if_true]
          exact State.reaches_running running
  | false =>
      simp only [run, running, Bool.false_eq_true, if_false]
      apply onward_trail
      · intro attended
        apply serves
        simp [run, running, trail, attended]
      · intro attended
        obtain far | ⟨-, unattended⟩ := reached
        · exact .inr (State.reaches_tearDown far attended)
        · exact absurd (unattended.symm.trans attended) (by decide)
      · exact fun unattended => .inr (State.eq_codeExecuted begun running unattended)

theorem onward_lead (serves : v.Serves (·.lead m .run)) (begun : v.snapshot.state.Reaches 1) :
    (v.lead m .run).Onward told v.snapshot.state := by
  cases attended : v.snapshot.state.isBootstrap with
  | true =>
      have able : v.able = true := by
        apply serves
        simp [lead, attended]
      simp only [lead, attended, able, Bool.and_self, if_true]
      exact ⟨rfl, begun⟩
  | false =>
      have led (v : View) (attended : v.snapshot.state.isBootstrap = false) :
          v.lead m .run = v.begin m .run := by simp [lead, attended]
      rw [led v attended]
      apply onward_run _ (.inr ⟨begun, attended⟩)
      intro wanted
      apply serves
      change (({ v with able := true } : View).lead m .run).next ≠ .finished
      rwa [led { v with able := true } attended]

theorem onward_after {stage : Stage} (serves : v.Serves (·.after m true stage))
    (onward : stage.Onward told v.snapshot.state) :
    (v.after m true stage).Onward told v.snapshot.state := by
  cases stage with
  | leading goal =>
      obtain ⟨rfl, begun⟩ := onward
      exact onward_lead serves begun
  | running leaving skipped => exact onward_run serves (.inl onward)
  | stepping => exact onward.elim
  | trailing =>
      apply onward_trail
      · intro attended
        apply serves
        simp [after, trail, attended]
      · exact fun _ => onward.imp_left .inl
      · intro unattended
        refine (onward.imp_left .inl).imp_right fun far => ?_
        obtain ⟨k, here, le⟩ := far
        exact State.eq_codeExecuted ⟨k, here, Nat.le_trans (by decide) le⟩
          (State.not_running_of_tearDown ⟨k, here, le⟩) unattended

end View

/-! ## Turns -/

/-- The state of interpreter `i`, as far as it is known. -/
def state? (c : Control) (i : Nat) : Option State := (c.debuggees[i]?).map (·.snapshot.state)

/-- Interpreter `i` takes every instruction that it is asked to execute, and nobody waits for one in
vain. -/
def Obeys (c : Control) (i : Nat) : Happening → Prop
  | .activity now .grant =>
    ∀ t ∈ c.queue.head?, ∀ goal ∈ t.errand.goal?, ∀ d ∈ c.debuggees[i]?,
      (c.view d now).Serves (·.lead c.memory goal)
  | .activity now .advance =>
    ∀ turn ∈ c.turn, ∀ d ∈ c.debuggees[i]?,
      match turn.phase with
      | .driving j stage waiter =>
        j = i → (waiter.due ≤ now → d.monitor.hasRefreshed waiter = true) ∧
          (d.monitor.hasRefreshed waiter = true →
            (c.view d now).Serves (·.after c.memory true stage))
      | .status .. | .code _ => True
  | _ => True

/-- What happens goes well for interpreter `i`: its states come in the order of a program's life, and
it obeys. -/
structure GoesWell (c : Control) (i : Nat) (h : Happening) : Prop where
  ordered : ∀ s ∈ c.state? i, ∀ s' ∈ (c.happen h).state? i, s.Precedes s'
  obeys : c.Obeys i h

/-- All of it goes well, and with the last of it the turn is over. -/
def Lasts (i : Nat) : Control → List Happening → Prop
  | c, [] => c.turn = none
  | c, h :: hs => c.turn ≠ none ∧ c.GoesWell i h ∧ Lasts i (c.happen h) hs

instance (c : Control) (i : Nat) (h : Happening) : Decidable (c.Obeys i h) :=
  match h with
  | .activity now .grant =>
    inferInstanceAs (Decidable (∀ t ∈ c.queue.head?, ∀ goal ∈ t.errand.goal?, ∀ d ∈ c.debuggees[i]?,
      (c.view d now).Serves (·.lead c.memory goal)))
  | .activity now .advance =>
    have (turn : Turn) (d : Debuggee) : Decidable (match turn.phase with
        | .driving j stage waiter =>
          j = i → (waiter.due ≤ now → d.monitor.hasRefreshed waiter = true) ∧
            (d.monitor.hasRefreshed waiter = true →
              (c.view d now).Serves (·.after c.memory true stage))
        | .status .. | .code _ => True) :=
      match turn.phase with
      | .driving .. => inferInstanceAs (Decidable (_ → _ ∧ _))
      | .status .. | .code _ => .isTrue trivial
    inferInstanceAs (Decidable (∀ turn ∈ c.turn, ∀ d ∈ c.debuggees[i]?, _))
  | .activity _ (.debuggee ..) | .activity _ .hear | .activity _ (.ask _) | .request ..
  | .terminate | .breakpoints _ | .evaluate .. | .interpreter .. => .isTrue trivial

instance (c : Control) (i : Nat) (h : Happening) : Decidable (c.GoesWell i h) :=
  decidable_of_iff ((∀ s ∈ c.state? i, ∀ s' ∈ (c.happen h).state? i, s.Precedes s') ∧ c.Obeys i h)
    ⟨fun ⟨ordered, obeys⟩ => ⟨ordered, obeys⟩, fun ⟨ordered, obeys⟩ => ⟨ordered, obeys⟩⟩

instance decidableLasts (i : Nat) : (c : Control) → (hs : List Happening) → Decidable (Lasts i c hs)
  | c, [] => inferInstanceAs (Decidable (c.turn = none))
  | c, h :: hs =>
    have := decidableLasts i (c.happen h) hs
    inferInstanceAs (Decidable (c.turn ≠ none ∧ c.GoesWell i h ∧ Lasts i (c.happen h) hs))

/-- Whether a stop has been reported. -/
def Told (c c' : Control) : Prop := ∃ reason, .stopped reason ∈ noted c c'

/-- A command to run on is being carried out for interpreter `i`. -/
structure Running (c₀ c : Control) (i : Nat) : Prop where
  notices : c₀.notices <+: c.notices
  turn : ∃ t stage waiter d, c.turn = some { task := t, phase := .driving i stage waiter } ∧
    c.debuggees[i]? = some d ∧ stage.Onward (Told c₀ c) d.snapshot.state

/-- It has been carried out. -/
structure Done (c₀ c : Control) (i : Nat) : Prop where
  turn : c.turn = none
  outcome : Told c₀ c ∨ c.state? i = some .codeExecuted

theorem told_mono {c₀ c c' : Control} (first : c₀.notices <+: c.notices)
    (second : c.notices <+: c'.notices) (told : Told c₀ c) : Told c₀ c' := by
  obtain ⟨reason, mem⟩ := told
  refine ⟨reason, ?_⟩
  rw [noted_trans first second]
  exact List.mem_append_left _ mem

theorem state?_eq {c : Control} {i : Nat} {d : Debuggee} (found : c.debuggees[i]? = some d) :
    c.state? i = some d.snapshot.state := by
  rw [state?, found]
  rfl

/-- A decision about a command to run on is carried out. -/
theorem running_follow {c₀ c : Control} {now : Millis} {t : Task} {i : Nat} {d : Debuggee}
    {δ : Decision} (notices : c₀.notices <+: c.notices) (found : c.debuggees[i]? = some d)
    (onward : δ.Onward (Told c₀ c) d.snapshot.state)
    (able : δ.next ≠ .finished → (d.execute? now).isSome = true)
    (ordered : ∀ s ∈ c.state? i, ∀ s' ∈ (c.follow now t i d δ).state? i, s.Precedes s') :
    Running c₀ (c.follow now t i d δ) i ∨ Done c₀ (c.follow now t i d δ) i := by
  have more := (c.followed now t i d δ).notices
  have told (told : Told c₀ c ∨ ∃ reason, .stopped reason ∈ δ.notices) :
      Told c₀ (c.follow now t i d δ) := by
    obtain told | ⟨reason, mem⟩ := told
    · exact told_mono notices ⟨_, more.symm⟩ told
    · refine ⟨reason, ?_⟩
      rw [noted_trans notices ⟨_, more.symm⟩, noted_eq more]
      exact List.mem_append_right _ mem
  cases next : δ.next with
  | execute stage =>
      obtain ⟨⟨waiter, d'⟩, executed⟩ := Option.isSome_iff_exists.mp (able (by simp [next]))
      have follow : c.follow now t i d δ =
          { (({ c.notify δ.notices with memory := δ.memory } : Control).modifyDebuggee i
              fun _ => d') with
            turn := some { task := t, phase := .driving i stage waiter } } := by
        simp only [Control.follow, next, executed]
      have found' : (c.follow now t i d δ).debuggees[i]? = some d' := by
        rw [follow]
        change (c.debuggees.modify i fun _ => d')[i]? = some d'
        rw [List.getElem?_modify, found]
        simp
      have precedes := ordered _ (state?_eq found) _ (state?_eq found')
      simp only [Decision.Onward, next] at onward
      refine .inl ⟨notices.trans ⟨_, more.symm⟩, t, stage, waiter, d', by rw [follow], found', ?_⟩
      exact onward.later told precedes
  | finished =>
      have follow : c.follow now t i d δ =
          ({ c.notify δ.notices with memory := δ.memory } : Control).finish t := by
        simp only [Control.follow, next]
      simp only [Decision.Onward, next] at onward
      refine .inr ⟨by rw [follow]; rfl, onward.imp told fun ended => ?_⟩
      rw [follow]
      exact (state?_eq found).trans (congrArg some ended)

/-- Something else happens meanwhile. -/
theorem Running.congr {c₀ c c' : Control} {i : Nat} (running : Running c₀ c i)
    (undriven : Undriven c.debuggees c'.debuggees) (turn : c'.turn = c.turn)
    (notices : c.notices <+: c'.notices)
    (ordered : ∀ s ∈ c.state? i, ∀ s' ∈ c'.state? i, s.Precedes s') : Running c₀ c' i := by
  obtain ⟨before, t, stage, waiter, d, driving, found, onward⟩ := running
  obtain ⟨inside, -⟩ := List.getElem?_eq_some_iff.mp found
  rw [← undriven.length] at inside
  have found' := List.getElem?_eq_getElem inside
  refine ⟨before.trans notices, t, stage, waiter, _, turn.trans driving, found', ?_⟩
  exact onward.later (told_mono before notices) (ordered _ (state?_eq found) _ (state?_eq found'))

theorem running_happen {c₀ c : Control} {i : Nat} (running : Running c₀ c i) (h : Happening)
    (well : c.GoesWell i h) : Running c₀ (c.happen h) i ∨ Done c₀ (c.happen h) i := by
  obtain ⟨t, stage, waiter, d, turn, found, onward⟩ := running.turn
  have stride := c.happen_stride h
  obtain ⟨ordered, obeys⟩ := well
  generalize c.happen h = c' at stride ordered ⊢
  cases stride with
  | aside new aside more => exact .inl (running.congr aside.undriven aside.turn ⟨_, more.symm⟩ ordered)
  | closed aside _ _ _ more =>
      exact .inl (running.congr aside.undriven aside.turn ⟨_, more.symm⟩ ordered)
  | request | ask => exact .inl (running.congr (.refl _) rfl (List.prefix_refl _) ordered)
  | launch idle | nobody idle | pursue idle => cases turn.symm.trans idle
  | install turn' | giveUp turn' | release turn' | enter turn' => cases turn.symm.trans turn'
  | drive turn' found' _ _ advance decided waited =>
      cases turn.symm.trans turn'
      cases found.symm.trans found'
      subst advance
      obtain ⟨inTime, serves⟩ := obeys _ turn d found rfl
      have refreshed := waited.elim id inTime
      rw [refreshed] at decided
      subst decided
      apply running_follow running.notices found (View.onward_after (serves refreshed) onward) _ ordered
      intro wanted
      by_contra unable
      exact wanted (View.after_unable (Bool.eq_false_iff.mpr unable) stage)

theorem done_of_lasts {c₀ c : Control} {i : Nat} (running : Running c₀ c i ∨ Done c₀ c i)
    (hs : List Happening) (lasts : Lasts i c hs) : Done c₀ (c.run hs) i := by
  induction hs generalizing c with
  | nil =>
      obtain ⟨-, t, stage, waiter, d, turn, -⟩ | done := running
      · cases turn.symm.trans lasts
      · exact done
  | cons h hs ih =>
      obtain ⟨busy, well, rest⟩ := lasts
      obtain running | done := running
      · exact ih (running_happen running h well) rest
      · exact absurd done.turn busy

/-- A command to run on gets its turn, and all goes well until its turn is over. Unless the
interpreter was only initialized, a stop has been reported then, or the program has been executed;
if it was, the turn is over at once, and nothing is said. -/
theorem resume_tells {c : Control} {now : Millis} {t : Task} {queue : List Task} {i : Nat}
    {d : Debuggee} (idle : c.turn = none) (first : c.queue = t :: queue) (errand : t.errand = .resume)
    (present : c.present = some i) (found : c.debuggees[i]? = some d) (hs : List Happening)
    (well : c.GoesWell i (.activity now .grant))
    (lasts : Lasts i (c.happen (.activity now .grant)) hs) :
    if d.snapshot.state = .initialized then
      hs = [] ∧ (c.happen (.activity now .grant)).notices = c.notices ∧
        (c.happen (.activity now .grant)).state? i = some .initialized
    else Told c (c.run (.activity now .grant :: hs)) ∨
      (c.run (.activity now .grant :: hs)).state? i = some .codeExecuted := by
  have granted : c.happen (.activity now .grant) =
      ({ c with queue } : Control).follow now t i d ((c.view d now).lead c.memory .run) := by
    simp only [happen, perform?, idle, first, Option.getD_some, begin, errand, pursuePresent,
      present, debuggee?, Option.bind_some, found]
    rfl
  have serves := well.obeys t (by rw [first]; rfl) .run (by rw [errand]; rfl) d found
  split
  · rename_i initialized
    obtain ⟨silent, finished⟩ : ((c.view d now).lead c.memory .run).notices = [] ∧
        ((c.view d now).lead c.memory .run).next = .finished := by
      have state : (c.view d now).snapshot.state = .initialized := initialized
      simp [View.lead, View.begin, View.run, View.trail, state, State.isBootstrap,
        State.isRunningCode]
    have followed : c.happen (.activity now .grant) =
        ({ ({ c with queue } : Control).notify ((c.view d now).lead c.memory .run).notices with
          memory := ((c.view d now).lead c.memory .run).memory } : Control).finish t := by
      rw [granted]
      simp only [Control.follow, finished]
    rw [followed] at lasts ⊢
    refine ⟨?_, ?_, (state?_eq found).trans (congrArg some initialized)⟩
    · cases hs with
      | nil => rfl
      | cons h hs => exact absurd rfl lasts.1
    · change c.notices ++ _ = c.notices
      rw [silent, List.append_nil]
  · rename_i begun
    have running : Running c (c.happen (.activity now .grant)) i ∨
        Done c (c.happen (.activity now .grant)) i := by
      obtain ⟨inside, -⟩ := List.getElem?_eq_some_iff.mp found
      have inside' := inside.trans_le (c.length_happen (.activity now .grant))
      have precedes := well.ordered _ (state?_eq found) _
        (state?_eq (List.getElem?_eq_getElem inside'))
      have ordered := well.ordered
      rw [granted] at ordered ⊢
      refine running_follow (c := { c with queue }) ?_ found ?_ ?_ ordered
      · exact List.prefix_refl c.notices
      · exact View.onward_lead serves (State.reaches_one precedes begun)
      · intro wanted
        by_contra unable
        exact wanted (View.lead_unable (Bool.eq_false_iff.mpr unable) .run)
    exact (done_of_lasts running hs lasts).outcome

/-- A program's interpreter has come up in some state, and to run the program is next. -/
def resuming (state : String) : List Happening :=
  [.request (.start "p.bbc" false false) none, .activity 1000 (.ask 0), .activity 1000 .grant]
    ++ ticking 0 2000 1 state ++ [.activity 2000 .advance, .activity 2000 (.ask 0)]

/-- The interpreter executes an instruction, which is the last one. -/
def finishing : List Happening :=
  doing 0 2000 [.link .command] ++ ticking 0 3000 6 "CodeExecuted" ++ [.activity 3000 .advance]

theorem resume_tells_executed :
    let c := (opening {} "/" none).run (resuming "CallUpdate")
    c.GoesWell 0 (.activity 2000 .grant) ∧ Lasts 0 (c.happen (.activity 2000 .grant)) finishing ∧
      (Told c (c.run (.activity 2000 .grant :: finishing)) ∨
        (c.run (.activity 2000 .grant :: finishing)).state? 0 = some .codeExecuted) := by
  obtain ⟨idle, first, present, state, well, lasts⟩ :
      let c := (opening {} "/" none).run (resuming "CallUpdate")
      c.turn = none ∧ c.queue = [{ errand := .resume }] ∧ c.present = some 0 ∧
        c.state? 0 = some .callUpdate ∧ c.GoesWell 0 (.activity 2000 .grant) ∧
        Lasts 0 (c.happen (.activity 2000 .grant)) finishing := by
    decide +kernel
  obtain ⟨d, found, running⟩ := Option.map_eq_some_iff.mp state
  have outcome := resume_tells idle first rfl present found finishing well lasts
  rw [if_neg (by simp [running])] at outcome
  exact ⟨well, lasts, outcome⟩

/-- An interpreter that is only initialized is left there without a word. -/
theorem resume_silent :
    ¬ ∀ (c : Control) (now : Millis) (t : Task) (queue : List Task) (i : Nat) (d : Debuggee)
        (hs : List Happening), c.turn = none → c.queue = t :: queue → t.errand = .resume →
      c.present = some i → c.debuggees[i]? = some d → c.GoesWell i (.activity now .grant) →
      Lasts i (c.happen (.activity now .grant)) hs →
      Told c (c.run (.activity now .grant :: hs)) ∨
        (c.run (.activity now .grant :: hs)).state? i = some .codeExecuted := by
  intro claim
  obtain ⟨idle, first, present, state, well, lasts, silent, initialized⟩ :
      let c := (opening {} "/" none).run (resuming "Initialized")
      c.turn = none ∧ c.queue = [{ errand := .resume }] ∧ c.present = some 0 ∧
        c.state? 0 = some .initialized ∧ c.GoesWell 0 (.activity 2000 .grant) ∧
        Lasts 0 (c.happen (.activity 2000 .grant)) [] ∧
        noted c (c.run [.activity 2000 .grant]) = [] ∧
        (c.run [.activity 2000 .grant]).state? 0 = some .initialized := by
    decide +kernel
  obtain ⟨d, found, -⟩ := Option.map_eq_some_iff.mp state
  obtain ⟨reason, told⟩ | executed := claim _ 2000 _ _ 0 d [] idle first rfl present found well lasts
  · rw [silent] at told
    cases told
  · cases initialized.symm.trans executed

end Control

end DebugAdapter
