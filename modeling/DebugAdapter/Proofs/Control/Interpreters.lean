import DebugAdapter.Proofs.Control.Moments
import DebugAdapter.Proofs.Monitor.Reports
/-!
# Interpreters from moment to moment

At each moment one interpreter does something, or is heard, or another one is launched, or the wait
for a first status is over, or interpreters are at most told something. So it can be said of each
interpreter what becomes of it, and of each notice where it comes from.
-/

namespace DebugAdapter

/-- What is noted when an event is heard. -/
def Monitor.Event.notices : Monitor.Event → List Control.Notice
  | .console text severity _ => [.output (.ofSeverity severity) text]
  | .stdout text => [.output .stdout text]
  | .stderr text => [.output .stderr text]
  | .failed text => [.output .important text]
  | .closed _ => [.ended]
  | .done | .spawned | .message .. | .unknown _ => []

namespace Control

/-- The same interpreters, which have been told something at most. -/
structure Tells (ds ds' : List Debuggee) : Prop where
  length : ds'.length = ds.length
  told : ∀ {i : Nat} {d : Debuggee}, ds[i]? = some d → ∃ d', ds'[i]? = some d' ∧ Debuggee.Told d d'

theorem Tells.refl (ds : List Debuggee) : Tells ds ds := ⟨rfl, fun found => ⟨_, found, .refl _⟩⟩

theorem Tells.trans {ds₁ ds₂ ds₃ : List Debuggee} (first : Tells ds₁ ds₂) (second : Tells ds₂ ds₃) :
    Tells ds₁ ds₃ where
  length := second.length.trans first.length
  told found :=
    let ⟨_, found₂, told⟩ := first.told found
    let ⟨d₃, found₃, told'⟩ := second.told found₂
    ⟨d₃, found₃, told.trans told'⟩

theorem tells_modify (ds : List Debuggee) (i : Nat) (f : Debuggee → Debuggee)
    (told : ∀ d, ds[i]? = some d → Debuggee.Told d (f d)) : Tells ds (ds.modify i f) where
  length := List.length_modify ..
  told := by
    intro j d found
    rw [List.getElem?_modify, found]
    refine ⟨_, rfl, ?_⟩
    split
    · rename_i same
      exact told d (same ▸ found)
    · exact .refl d

/-- The turn of a start whose first status is waited for. -/
def starting? (c : Control) : Option Turn :=
  c.turn.filter fun turn =>
    match turn.phase with
    | .status .. => true
    | .code _ | .driving .. => false

theorem awaits_iff {c : Control} {i : Nat} :
    c.Awaits i ↔ ∃ task due, c.starting? = some { task, phase := .status i due } := by
  constructor
  · rintro ⟨task, due, turn⟩
    exact ⟨task, due, by rw [starting?, turn]; rfl⟩
  · rintro ⟨task, due, starting⟩
    exact ⟨task, due, (Option.filter_eq_some_iff.mp starting).1⟩

/-- Nothing is launched or heard; interpreters are told something at most. -/
structure Calm (c c' : Control) : Prop where
  tells : Tells c.debuggees c'.debuggees
  present : c'.present = c.present
  starting : c'.starting? = c.starting?
  notices : ∃ new, c'.notices = c.notices ++ new ∧ ∀ n ∈ new, ∃ r, n = .stopped r

variable {c c' : Control}

theorem calm_of_same (tells : Tells c.debuggees c'.debuggees) (present : c'.present = c.present)
    (starting : c'.starting? = c.starting?) (notices : c'.notices = c.notices) : Calm c c' :=
  ⟨tells, present, starting, [], by simp [notices], by simp⟩

theorem Calm.refl (c : Control) : Calm c c := calm_of_same (.refl _) rfl rfl rfl

theorem Calm.trans {c₁ c₂ c₃ : Control} (first : Calm c₁ c₂) (second : Calm c₂ c₃) : Calm c₁ c₃ := by
  obtain ⟨new, noted, stops⟩ := first.notices
  obtain ⟨new', noted', stops'⟩ := second.notices
  refine ⟨first.tells.trans second.tells, second.present.trans first.present,
    second.starting.trans first.starting, new ++ new', ?_, ?_⟩
  · rw [noted', noted, List.append_assoc]
  · intro n member
    exact (List.mem_append.mp member).elim (stops n) (stops' n)

theorem calm_terminate (c : Control) : Calm c c.terminate := by
  obtain ⟨present, turn, -, -⟩ := c.terminate_same
  refine calm_of_same ?_ present (by rw [starting?, turn, starting?]) c.terminate_notices
  unfold terminate
  split
  · exact tells_modify _ _ _ fun d _ => d.told_dispose
  · exact .refl _

theorem calm_evaluate (c : Control) (expression : String) (context : Option String) :
    Calm c (c.evaluate expression context).2 := by
  unfold evaluate
  split
  · exact .refl c
  · split
    · exact .refl c
    · refine calm_of_same (tells_modify _ _ _ fun d _ => ?_) rfl rfl rfl
      cases sent : d.send? Interpreter.evaluateCommand (.string expression) with
      | none => exact .refl d
      | some d' => exact Debuggee.told_send sent

theorem tells_hear (c : Control) (e : Monitor.Event) : Tells c.debuggees (c.hear e).debuggees := by
  cases e with
  | done => exact c.calm_terminate.tells
  | _ => exact .refl _

theorem notices_hear (c : Control) (e : Monitor.Event) :
    (c.hear e).notices = c.notices ++ e.notices := by
  cases e with
  | done => exact c.terminate_notices.trans (List.append_nil _).symm
  | spawned | message | unknown => exact (List.append_nil _).symm
  | console | stdout | stderr | failed | closed => rfl

theorem calm_follow (idle : c.starting? = none) {now : Millis} {t : Task} {i : Nat} {d : Debuggee}
    {δ : Decision} {reason? : Option StopReason} (found : c.debuggees[i]? = some d)
    (faithful : δ.Faithful reason?) : Calm c (c.follow now t i d δ) := by
  have stops : ∀ n ∈ δ.notices, ∃ r, n = .stopped r := by
    obtain silent | ⟨r, stop⟩ := faithful.notices
    · simp [silent]
    · simp [stop]
  refine ⟨?_, (followed ..).present, ?_, δ.notices, (followed ..).notices, stops⟩
  · obtain ⟨stage, waiter, d', -, executed, follow⟩ | follow := c.follow_cases now t i d δ
    · rw [follow]
      refine tells_modify c.debuggees i _ fun x same => ?_
      cases found.symm.trans same
      exact Debuggee.told_execute executed
    · rw [follow]
      exact .refl _
  · rw [idle]
    obtain ⟨stage, waiter, d', -, -, follow⟩ | follow := c.follow_cases now t i d δ
    · rw [follow]
      rfl
    · rw [follow]
      rfl

theorem tells_launch (c : Control) (now : Millis) (t : Task) (program : String) (debug : Bool)
    {i : Nat} {d : Debuggee} (found : c.debuggees[i]? = some d) :
    ∃ d', (c.launch now t program debug).debuggees[i]? = some d' ∧ Debuggee.Told d d' := by
  obtain ⟨d', found', told⟩ := c.calm_terminate.tells.told found
  obtain same | one_more := c.launch_debuggees now t program debug
  · exact ⟨d', same ▸ found', told⟩
  · obtain ⟨inside, -⟩ := List.getElem?_eq_some_iff.mp found'
    rw [one_more]
    exact ⟨d', (List.getElem?_append_left inside).trans found', told⟩

theorem install_same (c : Control) (t : Task) (i : Nat) :
    (c.install t i).debuggees = c.debuggees ∧ (c.install t i).present = some i ∧
      (c.install t i).starting? = none ∧ (c.install t i).notices = c.notices := by
  unfold install
  split <;> exact ⟨rfl, rfl, rfl, rfl⟩

theorem launch_notices (c : Control) (now : Millis) (t : Task) (program : String) (debug : Bool) :
    (c.launch now t program debug).notices = c.notices ++ c.refusal.elim [] fun reason =>
      [.output .important (Monitor.StartError.refused reason).message, .ended] := by
  have before : (c.prepared program debug).notices = c.notices := c.terminate_notices
  have refusal : (c.prepared program debug).refusal = c.refusal := by
    change c.terminate.refusal = c.refusal
    unfold terminate
    split <;> rfl
  rw [← before, ← refusal]
  unfold launch
  dsimp only
  split
  · rename_i reason refused
    rw [show (c.prepared program debug).refusal = some reason from refused]
    rfl
  · rename_i accepted
    rw [show (c.prepared program debug).refusal = none from accepted]
    exact (List.append_nil _).symm

/-! ## Moments -/

namespace Moment

variable {m : Moment}

/-- What happens at a moment. -/
inductive Proceeds (m : Moment) : Prop
  | performs {now : Millis} {i : Nat} {a : Debuggee.Activity} {d d' : Debuggee}
      (happening : m.happening = .activity now (.debuggee i a))
      (found : m.before.debuggees[i]? = some d) (performed : d.perform? now a = some d')
      (after : m.after = m.before.modifyDebuggee i fun _ => d')
  | outside {i : Nat} {line : Framing.Line} {complaints : Framing.Pipe} {fate : Option (Option Int)}
      (happening : m.happening = .interpreter i line complaints fate)
      (after : m.after =
        m.before.modifyDebuggee i fun d => { d with link := { d.link with line, complaints, fate } })
  | hears {now : Millis} {i : Nat} {e : Monitor.Event} {d d' : Debuggee}
      (happening : m.happening = .activity now .hear) (present : m.before.present = some i)
      (found : m.before.debuggees[i]? = some d) (heard : d.hear? = some (e, d'))
      (after : m.after = (m.before.modifyDebuggee i fun _ => d').hear e)
  | launches (launches : m.launches = true)
  | installs {now : Millis} {t : Task} {i : Nat} {due : Millis} {d : Debuggee}
      (happening : m.happening = .activity now .advance)
      (turn : m.before.turn = some { task := t, phase := .status i due })
      (found : m.before.debuggees[i]? = some d) (refreshed : 0 < d.monitor.refreshed)
      (after : m.after = m.before.install t i)
  | givesUp {now : Millis} {t : Task} {i : Nat} {due : Millis} {d : Debuggee}
      (happening : m.happening = .activity now .advance)
      (turn : m.before.turn = some { task := t, phase := .status i due })
      (found : m.before.debuggees[i]? = some d) (silent : d.monitor.refreshed = 0) (late : due ≤ now)
      (after : m.after = (m.before.modifyDebuggee i Debuggee.dispose).fail t
        (.silent m.before.config.statusTimeout))
  | calm (calm : Calm m.before m.after) (unlaunched : m.launches = false) (unheard : m.heard? = none)
      (idle : ∀ now i a d, m.happening = .activity now (.debuggee i a) →
        m.before.debuggees[i]? = some d → d.perform? now a = none)
      (waits : ∀ now t i due d, m.happening = .activity now .advance →
        m.before.turn = some { task := t, phase := .status i due } →
          m.before.debuggees[i]? = some d → now < due)

variable {c' : Control} {now : Millis}

theorem after_activity {a : Activity} (happening : m.happening = .activity now a) :
    m.after = (m.before.perform? now a).getD m.before := by
  rw [after, happening, happen]

theorem unlaunched_of_ungranted (other : ∀ now, m.happening ≠ .activity now .grant) :
    m.launches = false := by
  unfold launches granted?
  split
  · exact absurd ‹_› (other _)
  · rfl

theorem unheard (other : ∀ now, m.happening ≠ .activity now .hear) : m.heard? = none := by
  unfold heard?
  split
  · exact absurd ‹_› (other _)
  · rfl

theorem heard?_of {i : Nat} {e : Monitor.Event} {d d' : Debuggee}
    (happening : m.happening = .activity now .hear) (present : m.before.present = some i)
    (found : m.before.debuggees[i]? = some d) (heard : d.hear? = some (e, d')) :
    m.heard? = some (i, e) := by
  rw [heard?, happening]
  simp only [present, found, heard, Option.bind_some, Option.map_some]

/-- The task whose turn it is goes on. -/
theorem proceeds_advance (happening : m.happening = .activity now .advance) : m.Proceeds := by
  have unlaunched : m.launches = false := unlaunched_of_ungranted (by simp [happening])
  have unheard : m.heard? = none := Moment.unheard (by simp [happening])
  have idle (now : Millis) (i : Nat) (a : Debuggee.Activity) (d : Debuggee)
      (other : m.happening = .activity now (.debuggee i a)) (_ : m.before.debuggees[i]? = some d) :
      d.perform? now a = none := by
    rw [happening] at other
    cases other
  cases advanced : m.before.advance? now with
  | none =>
      have same : m.after = m.before := by
        rw [after_activity happening, perform?, advanced, Option.getD_none]
      refine .calm (same ▸ .refl _) unlaunched unheard idle ?_
      intro now' t i due d happening' turn found
      cases happening.symm.trans happening'
      simp only [advance?, turn, found, Option.bind_eq_bind, Option.bind_some] at advanced
      split at advanced
      · cases advanced
      · split at advanced
        · cases advanced
        · exact Nat.lt_of_not_le ‹_›
  | some c' =>
      have same : m.after = c' := by
        rw [after_activity happening, perform?, advanced, Option.getD_some]
      have calm (running : m.before.starting? = none) (calm : Calm m.before c') : m.Proceeds := by
        refine .calm (same ▸ calm) unlaunched unheard idle ?_
        intro _ t i due d _ turn
        rw [starting?, turn] at running
        cases running
      obtain ⟨⟨task, phase⟩, turn, ready⟩ := Option.bind_eq_some_iff.mp advanced
      cases phase with
      | status i due =>
          obtain ⟨d, found, ready⟩ := Option.bind_eq_some_iff.mp ready
          split at ready
          · rename_i refreshed
            cases ready
            exact .installs happening turn found refreshed same
          · rename_i silent
            split at ready <;> cases ready
            rename_i late
            exact .givesUp happening turn found (by omega) late same
      | code i =>
          obtain ⟨d, found, ready⟩ := Option.bind_eq_some_iff.mp ready
          split at ready <;> cases ready
          have running : m.before.starting? = none := by rw [starting?, turn]; rfl
          refine calm running ?_
          unfold enter
          split
          · exact calm_follow running found (View.faithful_lead _ _ (.step .instruction .entry))
          · exact calm_of_same (.refl _) rfl running.symm rfl
      | driving i stage waiter =>
          obtain ⟨d, found, ready⟩ := Option.bind_eq_some_iff.mp ready
          have running : m.before.starting? = none := by rw [starting?, turn]; rfl
          refine calm running ?_
          split at ready
          · cases ready
            exact calm_follow running found (View.faithful_after _ _ _ _)
          · split at ready <;> cases ready
            exact calm_follow running found (View.faithful_after _ _ _ _)

theorem calm_pursuePresent {c : Control} (idle : c.turn = none) {t : Task} (queue : List Task)
    (goal : Goal) : Calm c (({ c with queue } : Control).pursuePresent now t goal) := by
  have waits : c.starting? = none := by rw [starting?, idle]; rfl
  unfold pursuePresent
  split
  · rename_i i d present found
    rw [debuggee?, present] at found
    have pursued : Calm { c with queue } (({ c with queue } : Control).pursue now t i d goal) :=
      calm_follow (c := { c with queue }) waits found (View.faithful_lead _ _ goal)
    exact { pursued with }
  · exact calm_of_same (.refl _) rfl waits.symm rfl

/-- The first in the queue gets its turn. -/
theorem proceeds_grant (happening : m.happening = .activity now .grant) : m.Proceeds := by
  cases launches : m.launches with
  | true => exact .launches launches
  | false =>
      refine .calm ?_ launches (unheard (by simp [happening])) (by simp [happening])
        (by simp [happening])
      rw [after_activity happening]
      simp only [perform?]
      split
      · rename_i t queue idle first
        simp only [Option.getD_some, begin]
        cases errand : t.errand with
        | start =>
            simp [Moment.launches, granted?, happening, idle, first, errand, Errand.isStart] at launches
        | resume | step => exact calm_pursuePresent idle queue _
      · exact .refl _

/-- An interpreter does something, if it can. -/
theorem proceeds_debuggee {i : Nat} {a : Debuggee.Activity}
    (happening : m.happening = .activity now (.debuggee i a)) : m.Proceeds := by
  have still (same : m.after = m.before)
      (idle : ∀ d, m.before.debuggees[i]? = some d → d.perform? now a = none) : m.Proceeds := by
    refine .calm (same ▸ .refl _) (unlaunched_of_ungranted (by simp [happening]))
      (unheard (by simp [happening])) ?_ (by simp [happening])
    intro now' i' a' d happening'
    cases happening.symm.trans happening'
    exact idle d
  cases found : m.before.debuggees[i]? with
  | none => exact still (by simp [after_activity happening, perform?, found]) (by simp [found])
  | some d =>
      cases performed : d.perform? now a with
      | some d' =>
          refine .performs happening found performed ?_
          simp [after_activity happening, perform?, found, performed]
      | none =>
          refine still (by simp [after_activity happening, perform?, found, performed]) ?_
          rw [found]
          rintro _ ⟨⟩
          exact performed

/-- The present interpreter is heard, if it has something to tell. -/
theorem proceeds_hear (happening : m.happening = .activity now .hear) : m.Proceeds := by
  cases heard : m.heard? with
  | some ie =>
      obtain ⟨now, d, d', happening, present, found, listened, after⟩ := heard?_eq heard
      exact .hears happening present found listened after
  | none =>
      have same : m.after = m.before := by
        rw [after_activity happening, perform?]
        simp only [heard?, happening, Option.bind_eq_none_iff, Option.map_eq_none_iff] at heard
        cases present : m.before.present with
        | none => rfl
        | some i =>
            cases found : m.before.debuggees[i]? with
            | none => simp [found]
            | some d => simp [found, heard i present d found]
      exact .calm (same ▸ .refl _) (unlaunched_of_ungranted (by simp [happening])) heard
        (by simp [happening]) (by simp [happening])

theorem proceeds (m : Moment) : m.Proceeds := by
  have told (calm : Calm m.before m.after) (other : ∀ now a, m.happening ≠ .activity now a) :
      m.Proceeds :=
    .calm calm (unlaunched_of_ungranted fun _ => other _ _) (unheard fun _ => other _ _)
      (fun _ _ _ _ is => absurd is (other _ _)) fun _ _ _ _ _ is => absurd is (other _ _)
  cases happening : m.happening with
  | activity now a =>
      cases a with
      | advance => exact proceeds_advance happening
      | grant => exact proceeds_grant happening
      | debuggee i a => exact proceeds_debuggee happening
      | hear => exact proceeds_hear happening
      | ask i =>
          refine .calm ?_ (unlaunched_of_ungranted (by simp [happening]))
            (unheard (by simp [happening])) (by simp [happening]) (by simp [happening])
          rw [after_activity happening, perform?]
          cases asked : m.before.tasks[i]? with
          | none => exact .refl _
          | some t => exact calm_of_same (.refl _) rfl rfl rfl
  | request errand asker =>
      refine told ?_ (by simp [happening])
      rw [after, happening]
      exact calm_of_same (.refl _) rfl rfl rfl
  | terminate =>
      refine told ?_ (by simp [happening])
      rw [after, happening]
      exact m.before.calm_terminate
  | breakpoints f =>
      refine told ?_ (by simp [happening])
      rw [after, happening]
      exact calm_of_same (.refl _) rfl rfl rfl
  | evaluate expression context =>
      refine told ?_ (by simp [happening])
      rw [after, happening]
      exact m.before.calm_evaluate expression context
  | interpreter i line complaints fate =>
      exact .outside happening (by rw [after, happening, happen])

/-! ## Fates -/

/-- What becomes of interpreter `i`. -/
inductive Fares (m : Moment) (i : Nat) (d : Debuggee) : Debuggee → Prop
  | performs {now : Millis} {a : Debuggee.Activity} {d' : Debuggee}
      (happening : m.happening = .activity now (.debuggee i a)) (performed : d.perform? now a = some d') :
      Fares m i d d'
  | outside {line : Framing.Line} {complaints : Framing.Pipe} {fate : Option (Option Int)}
      (happening : m.happening = .interpreter i line complaints fate) :
      Fares m i d { d with link := { d.link with line, complaints, fate } }
  | hears {e : Monitor.Event} {d₁ d' : Debuggee} (heard : m.heard? = some (i, e))
      (taken : d.hear? = some (e, d₁)) (told : Debuggee.Told d₁ d') : Fares m i d d'
  | told {d' : Debuggee}
      (idle : ∀ now a, m.happening = .activity now (.debuggee i a) → d.perform? now a = none)
      (unheard : ∀ e, m.heard? ≠ some (i, e)) (told : Debuggee.Told d d') : Fares m i d d'

/-- An interpreter that is not concerned is told something at most. -/
theorem fares (m : Moment) {i : Nat} {d : Debuggee} (found : m.before.debuggees[i]? = some d) :
    ∃ d', m.after.debuggees[i]? = some d' ∧ m.Fares i d d' := by
  have modified (j : Nat) (f : Debuggee → Debuggee) :
      (m.before.modifyDebuggee j f).debuggees[i]? = some (if j = i then f d else d) := by
    simp only [modifyDebuggee, List.getElem?_modify, found]
    split <;> rfl
  cases m.proceeds with
  | @performs now j a d₁ d' happening found₁ performed after =>
      refine ⟨_, after ▸ modified j _, ?_⟩
      by_cases same : j = i
      · subst same
        cases found.symm.trans found₁
        rw [if_pos rfl]
        exact .performs happening performed
      · rw [if_neg same]
        refine .told (fun now' a' happening' => ?_) (by simp [unheard, happening]) (.refl d)
        cases happening.symm.trans happening'
        exact absurd rfl same
  | @outside j line complaints fate happening after =>
      refine ⟨_, after ▸ modified j _, ?_⟩
      by_cases same : j = i
      · subst same
        rw [if_pos rfl]
        exact .outside happening
      · rw [if_neg same]
        exact .told (by simp [happening]) (by simp [unheard, happening]) (.refl d)
  | @hears now j e d₁ d₂ happening present found₁ heard after =>
      have heard? := heard?_of happening present found₁ heard
      obtain ⟨d', found', told⟩ := (tells_hear (m.before.modifyDebuggee j fun _ => d₂) e).told
        (modified j fun _ => d₂)
      refine ⟨d', after ▸ found', ?_⟩
      by_cases same : j = i
      · subst same
        cases found.symm.trans found₁
        rw [if_pos rfl] at told
        exact .hears heard? heard told
      · rw [if_neg same] at told
        refine .told (by simp [happening]) (fun e' heard' => ?_) told
        cases heard?.symm.trans heard'
        exact same rfl
  | launches launches =>
      obtain ⟨now, t, queue, program, stopOnEntry, debug, happening, -, -, -, after⟩ :=
        launches_eq launches
      obtain ⟨d', found', told⟩ :=
        tells_launch { m.before with queue } now t program debug found
      exact ⟨d', after ▸ found', .told (by simp [happening]) (by simp [unheard, happening]) told⟩
  | installs happening _ _ _ after =>
      refine ⟨d, ?_, .told (by simp [happening]) (by simp [unheard, happening]) (.refl d)⟩
      rw [after, (install_same ..).1]
      exact found
  | @givesUp now t j due _ happening _ _ _ _ after =>
      refine ⟨_, (congrArg (·.debuggees[i]?) after).trans (modified j Debuggee.dispose),
        .told (by simp [happening]) (by simp [unheard, happening]) ?_⟩
      split
      · exact d.told_dispose
      · exact .refl d
  | calm calm _ unheard idle _ =>
      obtain ⟨d', found', told⟩ := calm.tells.told found
      exact ⟨d', found', .told (fun now a happening => idle now i a d happening found)
        (by simp [unheard]) told⟩

/-- What holds of a new interpreter, and of each one whatever becomes of it, holds of them all. -/
theorem every_next (m : Moment) {P : Debuggee → Prop}
    (kept : ∀ {i : Nat} {d d' : Debuggee}, m.Fares i d d' → P d → P d')
    (new : ∀ config now, P (.start config now)) (all : ∀ d ∈ m.before.debuggees, P d) :
    ∀ d ∈ m.after.debuggees, P d := by
  intro d member
  obtain ⟨i, found⟩ := List.getElem?_of_mem member
  by_cases old : i < m.before.debuggees.length
  · obtain ⟨d', found', fares⟩ := m.fares (List.getElem?_eq_getElem old)
    cases found.symm.trans found'
    exact kept fares (all _ (List.getElem_mem old))
  · obtain ⟨inside, -⟩ := List.getElem?_eq_some_iff.mp found
    have grows : m.after.debuggees.length ≠ m.before.debuggees.length := by omega
    cases m.proceeds with
    | performs _ _ _ after | outside _ after | givesUp _ _ _ _ _ after =>
        exact absurd (by rw [after]; exact List.length_modify ..) grows
    | hears _ _ _ _ after =>
        exact absurd (by rw [after, (tells_hear ..).length]; exact List.length_modify ..) grows
    | installs _ _ _ _ after => exact absurd (by rw [after, (install_same ..).1]) grows
    | calm calm => exact absurd calm.tells.length grows
    | launches launches =>
        obtain ⟨now, t, queue, program, stopOnEntry, debug, -, -, -, -, after⟩ := launches_eq launches
        have before := (undriven_prepared { m.before with queue } program debug).length
        have launched := ({ m.before with queue } : Control).launch_debuggees now t program debug
        rw [← after] at launched
        generalize ({ m.before with queue } : Control).prepared program debug = prepared
          at before launched
        obtain same | one_more := launched
        · exact absurd (same ▸ before) grows
        · -- The only one that there was not before is the new one.
          rw [one_more, List.length_append, List.length_singleton] at inside
          have last : i = prepared.debuggees.length := by
            rw [before] at inside ⊢
            exact Nat.le_antisymm (Nat.le_of_lt_succ inside) (Nat.not_lt.mp old)
          rw [one_more, last, List.getElem?_concat_length] at found
          cases found
          exact new _ _

/-- The event that is heard of interpreter `i`, if one is. -/
def heardOf (m : Moment) (i : Nat) : List Monitor.Event :=
  match m.heard? with
  | some (j, e) => if j = i then [e] else []
  | none => []

/-- What a function tells of what interpreter `i` does. -/
def doneBy {α : Type} (m : Moment) (i : Nat)
    (f : Debuggee → Millis → Debuggee.Activity → List α) : List α :=
  match m.happening with
  | .activity now (.debuggee j a) =>
    if j = i then ((m.before.debuggees[i]?).map (f · now a)).getD [] else []
  | _ => []

/-- What the channel to interpreter `i` reports. -/
def reportedOf (m : Moment) (i : Nat) : List Channel.Event := m.doneBy i Debuggee.reported

theorem heardOf_eq {i : Nat} {e : Monitor.Event} (heard : m.heard? = some (i, e)) :
    m.heardOf i = [e] := by
  simp [heardOf, heard]

theorem heardOf_nil {i : Nat} (unheard : ∀ e, m.heard? ≠ some (i, e)) : m.heardOf i = [] := by
  unfold heardOf
  split
  · rename_i j e heard
    refine if_neg ?_
    rintro rfl
    exact unheard e heard
  · rfl

section

variable {α : Type} {i : Nat} {f : Debuggee → Millis → Debuggee.Activity → List α}

theorem doneBy_eq {now : Millis} {a : Debuggee.Activity} {d : Debuggee}
    (happening : m.happening = .activity now (.debuggee i a))
    (found : m.before.debuggees[i]? = some d) : m.doneBy i f = f d now a := by
  simp [doneBy, happening, found]

theorem doneBy_nil (nothing : ∀ now a d, m.happening = .activity now (.debuggee i a) →
    m.before.debuggees[i]? = some d → f d now a = []) : m.doneBy i f = [] := by
  unfold doneBy
  split
  · rename_i now j a happening
    split
    · rename_i same
      subst same
      cases found : m.before.debuggees[j]? with
      | none => rfl
      | some d => exact nothing now a d happening found
    · rfl
  · rfl

theorem doneBy_other (other : ∀ now a, m.happening ≠ .activity now (.debuggee i a)) :
    m.doneBy i f = [] :=
  doneBy_nil fun now a _ happening => absurd happening (other now a)

theorem doneBy_idle {d : Debuggee} (found : m.before.debuggees[i]? = some d)
    (idle : ∀ now a, m.happening = .activity now (.debuggee i a) → d.perform? now a = none)
    (impossible : ∀ now a, d.perform? now a = none → f d now a = []) : m.doneBy i f = [] := by
  refine doneBy_nil fun now a d' happening found' => ?_
  cases found.symm.trans found'
  exact impossible now a (idle now a happening)

end

theorem reportedOf_nil {i : Nat} {d : Debuggee} (found : m.before.debuggees[i]? = some d)
    (idle : ∀ now a, m.happening = .activity now (.debuggee i a) → d.perform? now a = none) :
    m.reportedOf i = [] :=
  doneBy_idle found idle fun _ _ => Debuggee.reported_impossible

variable {i : Nat} {d d' : Debuggee} (fares : m.Fares i d d')
include fares

theorem Fares.regular (regular : d.link.Regular) : d'.link.Regular := by
  cases fares with
  | performs _ performed => exact Debuggee.regular_perform regular performed
  | outside => exact ⟨regular.consistent, regular.childless, regular.drained, regular.killed,
      regular.numbered, regular.sized⟩
  | hears _ taken told =>
      obtain ⟨news, -, rfl⟩ := Debuggee.hear?_eq taken
      exact told.link.regular regular
  | told _ _ told => exact told.link.regular regular

/-- What is reported of an interpreter is heard later, in order. -/
theorem Fares.toCome (found : m.before.debuggees[i]? = some d) :
    (m.heardOf i).filter Monitor.Event.isForwarded ++ d'.toCome =
      d.toCome ++ (m.reportedOf i).filterMap Monitor.eventOfChannel? := by
  cases fares with
  | performs happening performed =>
      have unheard : m.heardOf i = [] := heardOf_nil (by simp [unheard, happening])
      rw [unheard, Debuggee.toCome_perform performed]
      simp [reportedOf, doneBy_eq happening found]
  | outside happening =>
      have unheard : m.heardOf i = [] := heardOf_nil (by simp [unheard, happening])
      have silent : m.reportedOf i = [] := doneBy_other (by simp [happening])
      rw [unheard, silent]
      exact (List.append_nil _).symm
  | hears heard taken told =>
      have silent : m.reportedOf i = [] := by
        obtain ⟨now, -, -, happening, -⟩ := heard?_eq heard
        exact doneBy_other (by simp [happening])
      rw [heardOf_eq heard, told.toCome, Debuggee.toCome_hear taken, silent]
      exact (List.append_nil _).symm
  | told idle unheard told =>
      rw [heardOf_nil unheard, reportedOf_nil found idle, told.toCome]
      exact (List.append_nil _).symm

theorem Fares.closed (found : m.before.debuggees[i]? = some d) (regular : d.link.Regular) :
    (m.reportedOf i).countP Channel.Event.isClosed + d.link.channel.closed.toNat =
      d'.link.channel.closed.toNat := by
  cases fares with
  | performs happening performed =>
      have reported := Debuggee.closed_perform regular performed
      rwa [reportedOf, doneBy_eq happening found]
  | outside happening =>
      rw [reportedOf, doneBy_other (by simp [happening])]
      exact Nat.zero_add _
  | hears heard taken told =>
      obtain ⟨now, -, -, happening, -⟩ := heard?_eq heard
      obtain ⟨news, -, rfl⟩ := Debuggee.hear?_eq taken
      rw [told.link.channel, reportedOf, doneBy_other (by simp [happening])]
      exact Nat.zero_add _
  | told idle _ told =>
      rw [reportedOf_nil found idle, told.link.channel]
      exact Nat.zero_add _

theorem Fares.stays_closed (found : m.before.debuggees[i]? = some d) (regular : d.link.Regular)
    (closed : d.link.channel.closed = true) : d'.link.channel.closed = true := by
  have kept := fares.closed found regular
  rw [closed] at kept
  cases closed' : d'.link.channel.closed with
  | true => rfl
  | false =>
      rw [closed'] at kept
      simp at kept

omit fares

/-! ## Notices -/

/-- A start that has its turn fails: no interpreter can be launched, or interpreter `i` has not
reported its first status in time. -/
inductive Fails (m : Moment) (i : Nat) : Monitor.StartError → Prop
  | refused {reason : Monitor.Refusal} (launches : m.launches = true)
      (refusal : m.before.refusal = some reason) : Fails m i (.refused reason)
  | silent {now : Millis} {t : Task} {due : Millis} {d : Debuggee}
      (happening : m.happening = .activity now .advance)
      (turn : m.before.turn = some { task := t, phase := .status i due })
      (found : m.before.debuggees[i]? = some d) (silent : d.monitor.refreshed = 0) (late : due ≤ now) :
      Fails m i (.silent m.before.config.statusTimeout)

/-- Where that comes from which is newly noted. -/
inductive Utters (m : Moment) : List Notice → Prop
  | stops {new : List Notice} (unheard : m.heard? = none) (stops : ∀ n ∈ new, ∃ r, n = .stopped r) :
      Utters m new
  | heard {i : Nat} {e : Monitor.Event} (heard : m.heard? = some (i, e)) : Utters m e.notices
  | failed {i : Nat} {e : Monitor.StartError} (fails : m.Fails i e) :
      Utters m [.output .important e.message, .ended]

/-- Every notice is a stop, or comes from what is heard, or is of a start that fails. -/
theorem utters (m : Moment) : ∃ new, m.after.notices = m.before.notices ++ new ∧ m.Utters new := by
  have silent (same : m.after.notices = m.before.notices) (unheard : m.heard? = none) :
      ∃ new, m.after.notices = m.before.notices ++ new ∧ m.Utters new :=
    ⟨[], by simp [same], .stops unheard (by simp)⟩
  cases m.proceeds with
  | performs happening _ _ after => exact silent (by rw [after]; rfl) (unheard (by simp [happening]))
  | outside happening after => exact silent (by rw [after]; rfl) (unheard (by simp [happening]))
  | hears happening present found heard after =>
      exact ⟨_, by rw [after, notices_hear]; rfl, .heard (heard?_of happening present found heard)⟩
  | launches launches =>
      obtain ⟨now, t, queue, program, stopOnEntry, debug, happening, -, -, -, after⟩ :=
        launches_eq launches
      have notices := launch_notices { m.before with queue } now t program debug
      rw [← after] at notices
      cases refusal : m.before.refusal with
      | none =>
          rw [show ({ m.before with queue } : Control).refusal = none from refusal] at notices
          exact silent (notices.trans (List.append_nil _)) (unheard (by simp [happening]))
      | some reason =>
          rw [show ({ m.before with queue } : Control).refusal = some reason from refusal] at notices
          exact ⟨_, notices, .failed (.refused (i := 0) launches refusal)⟩
  | installs happening _ _ _ after =>
      exact silent (by rw [after, (install_same ..).2.2.2]) (unheard (by simp [happening]))
  | givesUp happening turn found silent late after =>
      exact ⟨_, by rw [after]; rfl, .failed (.silent happening turn found silent late)⟩
  | calm calm _ unheard =>
      obtain ⟨new, noted, stops⟩ := calm.notices
      exact ⟨new, noted, .stops unheard stops⟩

/-- A start that fails says so, and ends its session. -/
theorem Fails.notices {e : Monitor.StartError} (fails : m.Fails i e) :
    m.notices = [.output .important e.message, .ended] := by
  cases fails with
  | @refused reason launches refusal =>
      obtain ⟨now, t, queue, program, stopOnEntry, debug, -, -, -, -, after⟩ := launches_eq launches
      have notices := launch_notices { m.before with queue } now t program debug
      rw [← after, show ({ m.before with queue } : Control).refusal = some reason from refusal] at notices
      exact noted_eq notices
  | @silent now t due d happening turn found silent late =>
      cases m.proceeds with
      | performs happening' | outside happening' | hears happening' =>
          cases happening.symm.trans happening'
      | launches launches =>
          obtain ⟨now', _, _, _, _, _, happening', -⟩ := launches_eq launches
          cases happening.symm.trans happening'
      | installs _ turn' found' refreshed =>
          cases turn.symm.trans turn'
          cases found.symm.trans found'
          omega
      | givesUp _ turn' _ _ _ after =>
          cases turn.symm.trans turn'
          exact noted_eq (by rw [after]; rfl)
      | calm _ _ _ _ waits =>
          have early := waits now t i due d happening turn found
          exact absurd early (Nat.not_lt.mpr late)

end Moment

end Control

end DebugAdapter
