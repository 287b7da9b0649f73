import DebugAdapter.Proofs.Control.Blocks
import DebugAdapter.Proofs.Control.Interpreters
/-!
# Sessions of execution control

A start that gets its turn begins a session with an interpreter of its own, or fails. Until the next
start does, nothing is noted of any other interpreter, and the end of the session at most once: the
end that is to be heard has been reported when the channel closed, and only then.
-/

namespace DebugAdapter

theorem Monitor.Event.count_ended (e : Monitor.Event) :
    e.notices.count .ended = [e].countP Monitor.Event.isClosed := by
  cases e <;> rfl

theorem Monitor.Event.isForwarded_of_isClosed {e : Monitor.Event} (closed : e.isClosed = true) :
    e.isForwarded = true := by
  cases e with
  | closed => rfl
  | _ => cases closed

namespace Control

variable {m : Moment} {i ended : Nat}

theorem count_stops {new : List Notice} (stops : ∀ n ∈ new, ∃ r, n = .stopped r) :
    new.count .ended = 0 := by
  refine List.count_eq_zero.mpr fun member => ?_
  obtain ⟨r, same⟩ := stops _ member
  cases same

/-! ## Standings -/

/-- There is no interpreter, and none is being started. -/
structure Vacant (c : Control) : Prop where
  present : c.present = none
  starting : c.starting? = none

/-- Interpreter `i` is the present one, and none is being started. -/
structure Installed (c : Control) (i : Nat) : Prop where
  present : c.present = some i
  starting : c.starting? = none

/-- The end of interpreter `i` has been heard so many times, or is still to be heard, if its channel
has closed. -/
def Balances (c : Control) (i ended : Nat) : Prop :=
  ∃ d, c.debuggees[i]? = some d ∧ d.link.Regular ∧
    ended + d.toCome.countP Monitor.Event.isClosed = d.link.channel.closed.toNat

/-- How the session of interpreter `i` stands whose end has been noted so many times. -/
inductive Standing (c : Control) (i : Nat) : Nat → Prop
  | failed (vacant : c.Vacant) : Standing c i 1
  | awaited {task : Task} {due : Millis} (present : c.present = none)
      (starting : c.starting? = some { task, phase := .status i due }) (balances : c.Balances i 0) :
      Standing c i 0
  | installed {ended : Nat} (installed : c.Installed i) (balances : c.Balances i ended) :
      Standing c i ended

theorem Standing.le_one {c : Control} (standing : Standing c i ended) : ended ≤ 1 := by
  cases standing with
  | failed => exact Nat.le_refl 1
  | awaited => exact Nat.zero_le 1
  | installed _ balances =>
      obtain ⟨d, -, -, balance⟩ := balances
      have most := d.link.channel.closed.toNat_le
      omega

theorem hear_same (c : Control) (e : Monitor.Event) :
    (c.hear e).present = c.present ∧ (c.hear e).starting? = c.starting? := by
  cases e with
  | done => exact ⟨c.calm_terminate.present, c.calm_terminate.starting⟩
  | _ => exact ⟨rfl, rfl⟩

namespace Moment

theorem Fares.balance {d d' : Debuggee} (fares : m.Fares i d d')
    (found : m.before.debuggees[i]? = some d) (regular : d.link.Regular) :
    (m.heardOf i).countP Monitor.Event.isClosed + d'.toCome.countP Monitor.Event.isClosed +
        d.link.channel.closed.toNat =
      d.toCome.countP Monitor.Event.isClosed + d'.link.channel.closed.toNat := by
  have heard : ((m.heardOf i).filter Monitor.Event.isForwarded).countP Monitor.Event.isClosed =
      (m.heardOf i).countP Monitor.Event.isClosed := by
    rw [List.countP_filter]
    refine List.countP_congr fun e _ => ?_
    simpa using Monitor.Event.isForwarded_of_isClosed
  have toCome := congrArg (List.countP Monitor.Event.isClosed) (fares.toCome found)
  have closed := fares.closed found regular
  rw [List.countP_append, List.countP_append, heard, Monitor.countP_eventOfChannel?] at toCome
  omega

theorem balances_next (balances : m.before.Balances i ended) :
    m.after.Balances i (ended + (m.heardOf i).countP Monitor.Event.isClosed) := by
  obtain ⟨d, found, regular, balance⟩ := balances
  obtain ⟨d', found', fares⟩ := m.fares found
  have kept := fares.balance found regular
  exact ⟨d', found', fares.regular regular, by omega⟩

theorem notices_eq {new : List Notice} (notices : m.after.notices = m.before.notices ++ new) :
    m.notices = new := noted_eq notices

theorem notices_nil (same : m.after.notices = m.before.notices) : m.notices = [] :=
  notices_eq (same.trans (List.append_nil _).symm)

/-- Where there is nobody, nobody comes before the next start. -/
theorem vacant_next (vacant : m.before.Vacant) (unlaunched : m.launches = false) :
    m.after.Vacant ∧ m.notices.count .ended = 0 := by
  have same (c : Control) (present : c.present = m.before.present)
      (starting : c.starting? = m.before.starting?) : c.Vacant :=
    ⟨present.trans vacant.present, starting.trans vacant.starting⟩
  have silent (notices : m.after.notices = m.before.notices) : m.notices.count .ended = 0 := by
    rw [notices_nil notices]
    rfl
  cases m.proceeds with
  | performs _ _ _ after | outside _ after =>
      rw [after] at silent ⊢
      exact ⟨same _ rfl rfl, silent rfl⟩
  | hears _ present =>
      rw [vacant.present] at present
      cases present
  | launches launches =>
      rw [unlaunched] at launches
      cases launches
  | installs _ turn | givesUp _ turn =>
      have starting := vacant.starting
      rw [starting?, turn] at starting
      cases starting
  | calm calm =>
      obtain ⟨new, noted, stops⟩ := calm.notices
      refine ⟨same _ calm.present calm.starting, ?_⟩
      rw [notices_eq noted]
      exact count_stops stops

/-- While a first status is waited for, nobody is heard; the wait ends in time. -/
theorem awaited_next {task : Task} {due : Millis} (present : m.before.present = none)
    (starting : m.before.starting? = some { task, phase := .status i due })
    (balances : m.before.Balances i 0) (unlaunched : m.launches = false) :
    m.after.Standing i (m.notices.count .ended) ∧ (m.after.starting? = none ∨
      m.after.starting? = m.before.starting? ∧ ∀ now ≥ due, m.happening ≠ .activity now .advance) := by
  have turn : m.before.turn = some { task, phase := .status i due } :=
    (Option.filter_eq_some_iff.mp starting).1
  have unheard : m.heardOf i = [] := by
    refine heardOf_nil fun e heard => ?_
    obtain ⟨now, d, d', -, here, -⟩ := heard?_eq heard
    rw [present] at here
    cases here
  have balances' : m.after.Balances i 0 := by simpa [unheard] using m.balances_next balances
  have waits (present' : m.after.present = m.before.present)
      (starting' : m.after.starting? = m.before.starting?) (silent : m.notices.count .ended = 0) :
      m.after.Standing i (m.notices.count .ended) := by
    rw [silent]
    exact .awaited (present'.trans present) (starting'.trans starting) balances'
  have silent (notices : m.after.notices = m.before.notices) : m.notices.count .ended = 0 := by
    rw [notices_nil notices]
    rfl
  cases m.proceeds with
  | performs happening _ _ after | outside happening after =>
      have same : m.after.starting? = m.before.starting? := by rw [after]; rfl
      exact ⟨waits (by rw [after]; rfl) same (silent (by rw [after]; rfl)),
        .inr ⟨same, by simp [happening]⟩⟩
  | hears _ here =>
      rw [present] at here
      cases here
  | launches launches =>
      rw [unlaunched] at launches
      cases launches
  | installs _ turn' _ _ after =>
      cases turn.symm.trans turn'
      obtain ⟨-, installed, idle, notices⟩ := m.before.install_same task i
      rw [silent (by rw [after, notices])]
      exact ⟨.installed ⟨by rw [after, installed], by rw [after, idle]⟩ balances',
        .inl (by rw [after, idle])⟩
  | givesUp _ _ _ _ _ after =>
      rw [notices_eq (by rw [after]; rfl)]
      exact ⟨.failed ⟨by rw [after]; exact present, by rw [after]; rfl⟩, .inl (by rw [after]; rfl)⟩
  | calm calm _ _ _ early =>
      obtain ⟨new, noted, stops⟩ := calm.notices
      obtain ⟨d, found, -⟩ := balances
      refine ⟨waits calm.present calm.starting ?_, .inr ⟨calm.starting, fun now late happening => ?_⟩⟩
      · rw [notices_eq noted]
        exact count_stops stops
      · exact absurd (early now task i due d happening turn found) (Nat.not_lt.mpr late)

/-- The present interpreter stays the present one until the next start. -/
theorem installed_next (installed : m.before.Installed i) (unlaunched : m.launches = false) :
    m.after.Installed i ∧ m.notices.count .ended = (m.heardOf i).countP Monitor.Event.isClosed := by
  have stays (present : m.after.present = m.before.present)
      (starting : m.after.starting? = m.before.starting?) : m.after.Installed i :=
    ⟨present.trans installed.present, starting.trans installed.starting⟩
  have silent (notices : m.after.notices = m.before.notices) (unheard : m.heard? = none) :
      m.notices.count .ended = (m.heardOf i).countP Monitor.Event.isClosed := by
    rw [notices_nil notices, heardOf_nil (by simp [unheard])]
    rfl
  cases m.proceeds with
  | performs happening _ _ after | outside happening after =>
      exact ⟨stays (by rw [after]; rfl) (by rw [after]; rfl),
        silent (by rw [after]; rfl) (unheard (by simp [happening]))⟩
  | hears happening present found heard after =>
      cases installed.present.symm.trans present
      obtain ⟨present', starting'⟩ := hear_same (m.before.modifyDebuggee i fun _ => _) _
      refine ⟨stays (by rw [after, present']; rfl) (by rw [after, starting']; rfl), ?_⟩
      rw [notices_eq (by rw [after, notices_hear]; rfl), Monitor.Event.count_ended,
        heardOf_eq (heard?_of happening present found heard)]
  | launches launches =>
      rw [unlaunched] at launches
      cases launches
  | installs _ turn | givesUp _ turn =>
      have starting := installed.starting
      rw [starting?, turn] at starting
      cases starting
  | calm calm _ unheard =>
      obtain ⟨new, noted, stops⟩ := calm.notices
      refine ⟨stays calm.present calm.starting, ?_⟩
      rw [notices_eq noted, heardOf_nil (by simp [unheard]), count_stops stops]
      rfl

theorem standing_next (standing : m.before.Standing i ended) (unlaunched : m.launches = false) :
    m.after.Standing i (ended + m.notices.count .ended) := by
  cases standing with
  | failed vacant =>
      obtain ⟨vacant', silent⟩ := vacant_next vacant unlaunched
      rw [silent]
      exact .failed vacant'
  | awaited present starting balances =>
      rw [Nat.zero_add]
      exact (awaited_next present starting balances unlaunched).1
  | installed installed balances =>
      obtain ⟨installed', count⟩ := installed_next installed unlaunched
      rw [count]
      exact .installed installed' (m.balances_next balances)

/-- A start that gets its turn begins a session. -/
theorem standing_launch (launches : m.launches = true) :
    m.after.Standing m.before.debuggees.length (m.notices.count .ended) := by
  obtain ⟨now, t, queue, program, stopOnEntry, debug, -, -, -, -, after⟩ := launches_eq launches
  have noted : (({ m.before with queue } : Control).prepared program debug).notices =
      m.before.notices := ({ m.before with queue } : Control).terminate_notices
  have length : (({ m.before with queue } : Control).prepared program debug).debuggees.length =
      m.before.debuggees.length := ({ m.before with queue } : Control).calm_terminate.tells.length
  obtain ⟨e, launched⟩ | ⟨due, launched⟩ :=
    ({ m.before with queue } : Control).launch_cases now t program debug
  · have notices : m.after.notices = m.before.notices ++ [.output .important e.message, .ended] := by
      rw [after, launched, ← noted]
      rfl
    rw [notices_eq notices]
    exact .failed ⟨by rw [after, launched]; rfl, by rw [after, launched]; rfl⟩
  · rw [notices_nil (by rw [after, launched]; exact noted), after, launched, ← length]
    refine .awaited rfl rfl ⟨_, List.getElem?_concat_length, ?_, ?_⟩
    · exact Channel.Link.regular_overPipe _
    · rfl

/-! ## Voices -/

/-- What is newly noted, other than a stop. -/
def said (m : Moment) : List Notice := m.notices.filter (·.reason?.isNone)

/-- Whether that comes from interpreter `i`, or is of its start that fails. -/
inductive Voiced (m : Moment) (i : Nat) : Prop
  | nothing (said : m.said = [])
  | heard {e : Monitor.Event} (heard : m.heard? = some (i, e)) (said : m.said = e.notices)
  | failed {e : Monitor.StartError} (fails : m.Fails i e)
      (said : m.said = [.output .important e.message, .ended])

theorem filter_notices (e : Monitor.Event) : e.notices.filter (·.reason?.isNone) = e.notices := by
  cases e <;> rfl

theorem filter_stops {new : List Notice} (stops : ∀ n ∈ new, ∃ r, n = .stopped r) :
    new.filter (·.reason?.isNone) = [] := by
  refine List.filter_eq_nil_iff.mpr fun n member => ?_
  obtain ⟨r, rfl⟩ := stops n member
  exact Bool.false_ne_true

/-- Nobody but the interpreter of the session is heard. -/
theorem voiced (own : m.launches = false → ∀ j, m.before.present = some j ∨ m.before.Awaits j → j = i) :
    m.Voiced i := by
  obtain ⟨new, noted, utters⟩ := m.utters
  have notices := notices_eq noted
  cases utters with
  | stops _ stops => exact .nothing (by rw [said, notices, filter_stops stops])
  | @heard j e heard =>
      obtain ⟨now, d, d', happening, present, -⟩ := heard?_eq heard
      cases own (unlaunched_of_ungranted (by simp [happening])) j (.inl present)
      exact .heard heard (by rw [said, notices, filter_notices])
  | @failed j e fails =>
      refine .failed ?_ (by rw [said, notices]; rfl)
      cases fails with
      | refused launches refusal => exact .refused launches refusal
      | @silent now t due d happening turn found silent late =>
          cases own (unlaunched_of_ungranted (by simp [happening])) j (.inr ⟨t, due, turn⟩)
          exact .silent happening turn found silent late

/-- Where there is nobody, nobody is heard. -/
theorem vacant_said (vacant : m.before.Vacant) (unlaunched : m.launches = false) : m.said = [] := by
  obtain ⟨new, noted, utters⟩ := m.utters
  rw [said, notices_eq noted]
  cases utters with
  | stops _ stops => exact filter_stops stops
  | heard heard =>
      obtain ⟨now, d, d', -, present, -⟩ := heard?_eq heard
      rw [vacant.present] at present
      cases present
  | failed fails =>
      cases fails with
      | refused launches =>
          rw [unlaunched] at launches
          cases launches
      | silent _ turn =>
          have starting := vacant.starting
          rw [starting?, turn] at starting
          cases starting

end Moment

theorem Standing.balances {c : Control} (standing : Standing c i ended) :
    ended = 1 ∨ c.Balances i ended := by
  cases standing with
  | failed => exact .inl rfl
  | awaited _ _ balances | installed _ balances => exact .inr balances

theorem Standing.own {c : Control} (standing : Standing c i ended) (j : Nat)
    (here : c.present = some j ∨ c.Awaits j) : j = i := by
  rw [awaits_iff] at here
  cases standing with
  | failed vacant => simp [vacant.present, vacant.starting] at here
  | awaited present starting => simpa [present, starting, eq_comm] using here
  | installed installed => simpa [installed.present, installed.starting, eq_comm] using here

end Control

end DebugAdapter
