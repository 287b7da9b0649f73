import DebugAdapter.Proofs.Control.Happening
import DebugAdapter.Proofs.Endless
import DebugAdapter.Proofs.Trace
/-!
# Moments of execution control

A run of execution control, remembered moment by moment: what happened, what there was before, which
task got its turn, what was heard, and what was noted. Whether an interpreter can be launched may be
different each time.
-/

namespace DebugAdapter

open Monitor (Waiter)

namespace Control

/-- Something that happens, and why no interpreter could be launched then, if so. -/
structure Occurrence where
  happening : Happening
  refusal : Option Monitor.Refusal := none

/-- Something that happened, and what there was before. -/
structure Moment where
  before : Control
  happening : Happening

namespace Moment

/-- What there is afterwards. -/
def after (m : Moment) : Control := m.before.happen m.happening

/-- What is newly noted. -/
def notices (m : Moment) : List Notice := noted m.before m.after

/-- The task that gets its turn, if one does. -/
def granted? (m : Moment) : Option Task :=
  match m.happening with
  | .activity _ .grant => if m.before.turn.isNone then m.before.queue.head? else none
  | _ => none

/-- Whether a start gets its turn. -/
def launches (m : Moment) : Bool := m.granted?.any (·.errand.isStart)

/-- The event that is heard, if one is, and of which interpreter. -/
def heard? (m : Moment) : Option (Nat × Monitor.Event) :=
  match m.happening with
  | .activity _ .hear =>
    m.before.present.bind fun i =>
      (m.before.debuggees[i]?).bind fun d => d.hear?.map fun (e, _) => (i, e)
  | _ => none

/-- How many more commands to execute an instruction wait for interpreter `i`. -/
def orders (m : Moment) (i : Nat) : Nat := m.after.orders i - m.before.orders i

end Moment

/-- What there is when an occurrence comes. -/
def facing (c : Control) (o : Occurrence) : Control := { c with refusal := o.refusal }

/-- An occurrence, as it is remembered. -/
def remember (c : Control) (o : Occurrence) : Control × Moment :=
  let m : Moment := { before := c.facing o, happening := o.happening }
  (m.after, m)

/-- What happened from the beginning. -/
def history (config : Monitor.Config) (home : String) (occurrences : List Occurrence) :
    Trace Control Moment :=
  Trace.run remember (opening config home none) occurrences

/-- Execution control after the first `n` of endlessly many occurrences. -/
def during (c : Control) (os : Nat → Occurrence) : Nat → Control :=
  endless (fun c o => (remember c o).1) c os

/-- The moment that comes next then. -/
def momentAt (c : Control) (os : Nat → Occurrence) (n : Nat) : Moment :=
  { before := (c.during os n).facing (os n), happening := (os n).happening }

/-- The first moment comes first. -/
theorem entries_cons (c : Control) (o : Occurrence) (os : List Occurrence) :
    (Trace.run remember c (o :: os)).entries =
      { before := c.facing o, happening := o.happening } ::
        (Trace.run remember ((c.facing o).happen o.happening) os).entries := by
  rw [Trace.run_cons]
  rfl

theorem sound_facing {c : Control} (sound : c.Sound) (o : Occurrence) : (c.facing o).Sound :=
  ⟨⟨sound.orderly.others, sound.orderly.alone⟩, sound.candid, sound.attends⟩

namespace Moment

/-- Only the granting of a turn grants a turn. -/
theorem granted?_eq {m : Moment} {t : Task} (granted : m.granted? = some t) :
    ∃ now queue, m.happening = .activity now .grant ∧ m.before.turn = none ∧
      m.before.queue = t :: queue ∧ m.after = ({ m.before with queue } : Control).begin now t := by
  unfold granted? at granted
  split at granted
  · rename_i now happening
    split at granted
    · rename_i idle
      rw [Option.isNone_iff_eq_none] at idle
      obtain ⟨queue, first⟩ := List.head?_eq_some_iff.mp granted
      refine ⟨now, queue, happening, idle, first, ?_⟩
      rw [after, happening]
      simp only [happen, perform?, idle, first, Option.getD_some]
    · cases granted
  · cases granted

theorem heard?_eq {m : Moment} {i : Nat} {e : Monitor.Event} (heard : m.heard? = some (i, e)) :
    ∃ now d d', m.happening = .activity now .hear ∧ m.before.present = some i ∧
      m.before.debuggees[i]? = some d ∧ d.hear? = some (e, d') ∧
      m.after = (m.before.modifyDebuggee i fun _ => d').hear e := by
  unfold heard? at heard
  split at heard
  · rename_i now happening
    obtain ⟨j, present, heard⟩ := Option.bind_eq_some_iff.mp heard
    obtain ⟨d, found, heard⟩ := Option.bind_eq_some_iff.mp heard
    obtain ⟨⟨e', d'⟩, listened, same⟩ := Option.map_eq_some_iff.mp heard
    cases same
    refine ⟨now, d, d', happening, present, found, listened, ?_⟩
    rw [after, happening]
    simp [happen, perform?, present, found, listened]
  · cases heard

theorem launches_eq {m : Moment} (launches : m.launches = true) :
    ∃ now t queue program stopOnEntry debug, m.happening = .activity now .grant ∧
      m.before.turn = none ∧ m.before.queue = t :: queue ∧
      t.errand = .start program stopOnEntry debug ∧
      m.after = ({ m.before with queue } : Control).launch now t program debug := by
  obtain ⟨t, granted, start⟩ := (Option.any_eq_true ..).mp launches
  obtain ⟨now, queue, happening, idle, first, after⟩ := granted?_eq granted
  cases errand : t.errand with
  | start program stopOnEntry debug =>
      refine ⟨now, t, queue, program, stopOnEntry, debug, happening, idle, first, errand, ?_⟩
      rw [after, begin, errand]
  | resume | step => rw [errand] at start; cases start

/-- A task leaves the queue only when it gets its turn. -/
theorem queue_of_ungranted {m : Moment} (ungranted : m.granted? = none) :
    m.before.queue <+: m.after.queue := by
  obtain ⟨c, h⟩ := m
  change c.queue <+: (c.happen h).queue
  cases h with
  | activity now a =>
      rw [happen]
      cases performed : c.perform? now a with
      | none => exact List.prefix_refl _
      | some c' =>
          rw [Option.getD_some]
          cases a with
          | debuggee i a =>
              obtain ⟨d, -, performed⟩ := Option.bind_eq_some_iff.mp performed
              obtain ⟨d', -, performed⟩ := Option.bind_eq_some_iff.mp performed
              cases performed
              exact List.prefix_refl _
          | hear =>
              obtain ⟨i, -, performed⟩ := Option.bind_eq_some_iff.mp performed
              obtain ⟨d, -, performed⟩ := Option.bind_eq_some_iff.mp performed
              obtain ⟨⟨e, d'⟩, -, performed⟩ := Option.bind_eq_some_iff.mp performed
              cases performed
              cases e with
              | done => rw [hear, (terminate_same _).2.2.2]; exact List.prefix_refl _
              | _ => exact List.prefix_refl _
          | ask i =>
              obtain ⟨t, -, performed⟩ := Option.bind_eq_some_iff.mp performed
              cases performed
              exact List.prefix_append _ _
          | grant =>
              simp only [perform?] at performed
              split at performed
              · rename_i idle first
                simp [granted?, idle, first] at ungranted
              · cases performed
          | advance =>
              obtain ⟨turn, busy, -⟩ := Option.bind_eq_some_iff.mp performed
              cases stride_advance performed with
              | aside _ aside => rw [aside.queue]
              | closed aside => rw [aside.queue]
              | launch idle | nobody idle | pursue idle => cases busy.symm.trans idle
              | ask => exact List.prefix_append _ _
              | install =>
                  unfold install
                  split <;> exact List.prefix_refl _
              | giveUp | release => exact List.prefix_refl _
              | enter | drive => rw [(followed ..).queue]
  | request | breakpoints | interpreter => exact List.prefix_refl _
  | terminate => rw [happen, c.terminate_same.2.2.2]
  | evaluate expression context => rw [happen, (aside_evaluate c expression context).1.queue]

/-- So whose turn does not begin does not leave the queue. -/
theorem queue_ne_of_ungranted {m : Moment} (ungranted : m.granted? = none) {t : Task}
    {queue : List Task} (first : m.before.queue = t :: queue) : m.after.queue ≠ queue := by
  intro same
  have grows := (queue_of_ungranted ungranted).length_le
  rw [first, same, List.length_cons] at grows
  omega

end Moment

/-! ## Places -/

/-- Whether the present interpreter, and one that is being started, have been started. -/
structure Housed (c : Control) : Prop where
  present : ∀ i, c.present = some i → i < c.debuggees.length
  awaited : ∀ i, c.Awaits i → i < c.debuggees.length

theorem housed_opening (config : Monitor.Config) (home : String) (refusal : Option Monitor.Refusal) :
    (opening config home refusal).Housed :=
  ⟨nofun, by rintro i ⟨task, due, turn⟩; cases turn⟩

theorem housed_facing {c : Control} (housed : c.Housed) (o : Occurrence) : (c.facing o).Housed :=
  ⟨housed.present, housed.awaited⟩

theorem housed_happen {c : Control} (housed : c.Housed) (h : Happening) : (c.happen h).Housed := by
  have grows := c.length_happen h
  have stride := c.happen_stride h
  generalize c.happen h = c' at grows stride ⊢
  have kept (present : c'.present = c.present) (turn : ∀ i, c'.Awaits i → c.Awaits i) : c'.Housed :=
    ⟨fun i here => (housed.present i (present ▸ here)).trans_le grows,
      fun i awaits => (housed.awaited i (turn i awaits)).trans_le grows⟩
  cases stride with
  | aside _ aside | closed aside =>
      refine kept aside.present fun i awaits => ?_
      rwa [Awaits, aside.turn] at awaits
  | request | ask => exact kept rfl fun _ => id
  | nobody | giveUp | release =>
      refine kept rfl ?_
      rintro i ⟨task, due, turn⟩
      cases turn
  | @launch _ now t queue program _ debug _ _ _ =>
      obtain ⟨e, launched⟩ | ⟨due, launched⟩ :=
        ({ c with queue } : Control).launch_cases now t program debug
      · rw [launched]
        refine ⟨by rintro i ⟨⟩, ?_⟩
        rintro i ⟨task, due, turn⟩
        cases turn
      · rw [launched]
        refine ⟨by rintro i ⟨⟩, ?_⟩
        rintro i ⟨task, due, turn⟩
        cases turn
        simp
  | @install _ t i due turn =>
      have inside := housed.awaited i ⟨t, due, turn⟩
      unfold install at grows ⊢
      split
      · refine ⟨fun j here => ?_, ?_⟩
        · cases here
          exact inside
        · rintro j ⟨task, due, turn⟩
          cases turn
      · refine ⟨fun j here => ?_, ?_⟩
        · cases here
          exact inside
        · rintro j ⟨task, due, turn⟩
          cases turn
  | pursue | enter | drive =>
      refine kept (followed ..).present ?_
      rintro j ⟨task, due, turn⟩
      obtain ⟨stage, waiter, d', -, -, follow⟩ | follow := follow_cases ..
      · rw [follow] at turn
        cases turn
      · rw [follow] at turn
        cases turn

end Control

end DebugAdapter
