import DebugAdapter.Proofs.Channel.Completion
/-!
# How requests expire

When some deadlines have come, the requests that have them fail, each with its own number and the
time that it was given, and all others go on waiting. The timer stands at the earliest deadline: it
fires only if a request fails, and not twice at the same time. Where it fires before anything else
that is done after a deadline, nobody waits beyond a deadline.
-/

namespace DebugAdapter.Channel

variable {ρ : Type}

/-! ## The requests that expire -/

/-- Whether a request has a deadline, and it has come. -/
def Pending.Due (now : Millis) (p : Pending ρ) : Prop := ∃ d, p.deadline = some d ∧ d.due ≤ now

theorem Pending.isOverdue_iff {now : Millis} {p : Pending ρ} :
    p.isOverdue now = true ↔ p.Due now := by
  cases deadline : p.deadline <;> simp [isOverdue, Due, deadline]

/-- Some requests fail because their deadlines have come, and the others are kept. Everything stays
in order. -/
inductive Expiring (now : Millis) :
    List (Pending ρ) → List (Pending ρ) → List (Effect ρ) → Prop where
  | nil : Expiring now [] [] []
  | fails {requests kept : List (Pending ρ)} {failures : List (Effect ρ)} (p : Pending ρ)
      (d : Deadline) (deadline : p.deadline = some d) (due : d.due ≤ now)
      (rest : Expiring now requests kept failures) :
    Expiring now (p :: requests) kept
      (.complete p.asker (.error (.timeout p.id d.after)) :: failures)
  | waits {requests kept : List (Pending ρ)} {failures : List (Effect ρ)} (p : Pending ρ)
      (waits : ¬ p.Due now) (rest : Expiring now requests kept failures) :
    Expiring now (p :: requests) (p :: kept) failures

theorem expiring (now : Millis) (requests : List (Pending ρ)) :
    Expiring now requests (requests.filter (!·.isOverdue now))
      ((requests.filter (·.isOverdue now)).map fun p => .complete p.asker (.error p.expiry)) := by
  induction requests with
  | nil => exact .nil
  | cons p requests ih =>
      cases overdue : p.isOverdue now with
      | true =>
          obtain ⟨d, deadline, due⟩ := Pending.isOverdue_iff.mp overdue
          have error : p.expiry = .timeout p.id d.after := by simp [Pending.expiry, deadline]
          simpa [overdue, error] using Expiring.fails p d deadline due ih
      | false =>
          have waits : ¬ p.Due now := by simp [← Pending.isOverdue_iff, overdue]
          simpa [overdue] using Expiring.waits p waits ih

/-! ## The timer -/

/-- Whether no request has a deadline before some time, and one has it then. -/
structure Earliest (requests : List (Pending ρ)) (t : Millis) : Prop where
  here : ∃ p ∈ requests, ∃ d, p.deadline = some d ∧ d.due = t
  least : ∀ p ∈ requests, ∀ d, p.deadline = some d → t ≤ d.due

namespace Requests

variable (rs : Requests ρ)

theorem mem_deadlines {t : Millis} : (t ∈ rs.pending.filterMap fun p => p.deadline.map (·.due)) ↔
    ∃ p ∈ rs.pending, ∃ d, p.deadline = some d ∧ d.due = t := by
  simp

theorem nextDeadline?_eq_some {t : Millis} :
    rs.nextDeadline? = some t ↔ Earliest rs.pending t := by
  rw [nextDeadline?, List.min?_eq_some_iff, rs.mem_deadlines]
  constructor
  · rintro ⟨here, least⟩
    refine ⟨here, fun p mem d deadline => least d.due ?_⟩
    exact rs.mem_deadlines.mpr ⟨p, mem, d, deadline, rfl⟩
  · rintro ⟨here, least⟩
    refine ⟨here, fun t' listed => ?_⟩
    obtain ⟨p, mem, d, deadline, rfl⟩ := rs.mem_deadlines.mp listed
    exact least p mem d deadline

theorem nextDeadline?_eq_none :
    rs.nextDeadline? = none ↔ ∀ p ∈ rs.pending, p.deadline = none := by
  simp [nextDeadline?]

/-- The earliest deadline has come when some deadline has. -/
theorem nextDeadline?_le (now : Millis) :
    (∃ t, rs.nextDeadline? = some t ∧ t ≤ now) ↔ ∃ p ∈ rs.pending, p.Due now := by
  constructor
  · rintro ⟨t, next, come⟩
    obtain ⟨p, mem, d, deadline, rfl⟩ := (rs.nextDeadline?_eq_some.mp next).here
    exact ⟨p, mem, d, deadline, come⟩
  · rintro ⟨p, mem, d, deadline, come⟩
    cases next : rs.nextDeadline? with
    | none => simp [rs.nextDeadline?_eq_none.mp next p mem] at deadline
    | some t =>
        have least := (rs.nextDeadline?_eq_some.mp next).least p mem d deadline
        exact ⟨t, rfl, Nat.le_trans least come⟩

theorem not_due_expire (now : Millis) : ∀ p ∈ (rs.expire now).pending, ¬ p.Due now := by
  intro p mem
  have waits := (List.mem_filter.mp mem).2
  simpa [← Pending.isOverdue_iff] using waits

/-- What is left has later deadlines. -/
theorem lt_nextDeadline?_expire {now t : Millis}
    (next : (rs.expire now).nextDeadline? = some t) : now < t := by
  by_contra come
  obtain ⟨p, mem, due⟩ := ((rs.expire now).nextDeadline?_le now).mp ⟨t, next, Nat.le_of_not_lt come⟩
  exact rs.not_due_expire now p mem due

end Requests

/-- What happens to a channel when requests expire. -/
structure Expires (c : Channel ρ) (now : Millis) : Prop where
  requests : Expiring now c.requests.pending (c.expire now).1.requests.pending (c.expire now).2
  /-- Nothing but the requests changes. -/
  rest : (c.expire now).1 = { c with requests := (c.expire now).1.requests }
  later : ∀ t, (c.expire now).1.requests.nextDeadline? = some t → now < t

theorem expires (c : Channel ρ) (now : Millis) : Expires c now where
  requests := expiring now c.requests.pending
  rest := rfl
  later := fun _ next => c.requests.lt_nextDeadline?_expire next

namespace Link

variable (l : Link ρ) (now : Millis)

/-- The timer can fire when a deadline has come. -/
theorem perform?_expire_isSome : (l.perform? now .expire).isSome = true ↔
    l.channel.ended = false ∧ ∃ p ∈ l.channel.requests.pending, p.Due now := by
  rw [← l.channel.requests.nextDeadline?_le now, perform?]
  cases l.channel.requests.nextDeadline? with
  | none => simp
  | some t => cases l.channel.ended <;> simp

theorem perform?_expire {l' : Link ρ} {effects : List (Effect ρ)}
    (fired : l.perform? now .expire = some (l', effects)) :
    l.channel.ended = false ∧ (l'.channel, effects) = l.channel.expire now := by
  have live := (l.perform?_expire_isSome now).mp (by rw [fired]; rfl) |>.1
  have heard : l.channel.step (l.surroundings now) .expire = l.channel.expire now :=
    if_neg (by simp [live])
  refine ⟨live, ?_⟩
  rw [perform?] at fired
  split at fired
  · split at fired
    · cases fired
      exact heard
    · cases fired
  · cases fired

/-- It does not fire twice at the same time. -/
theorem perform?_expire_again {l' : Link ρ} {effects : List (Effect ρ)}
    (fired : l.perform? now .expire = some (l', effects)) : l'.perform? now .expire = none := by
  obtain ⟨-, same⟩ := l.perform?_expire now fired
  have channel : l'.channel = (l.channel.expire now).1 := congrArg (·.1) same
  rw [← Option.not_isSome_iff_eq_none, perform?_expire_isSome, channel]
  rintro ⟨-, p, mem, due⟩
  exact l.channel.requests.not_due_expire now p mem due

end Link

/-! ## Firing in time -/

/-- Whether the timer fires first: what is done when a deadline has come is that requests expire. -/
def Entry.Punctual (e : Entry) : Prop :=
  ∀ now m, e.happening = .move now m →
    ∀ t, e.before.link.channel.requests.nextDeadline? = some t → t ≤ now → m = .expire

/-- Whether a request has been completed at some entry, at the latest because its deadline passed. -/
def Entry.Ends (front : List Entry) (e : Entry) (p : Pending Nat) : Prop :=
  p.asker ∈ (Channel.completed front).map (·.1) ∨
    ∃ d, p.deadline = some d ∧ (p.asker, .error (.timeout p.id d.after)) ∈ e.completed

/-- Whether nobody waits for a reply beyond a deadline. -/
def InTime (es : List Entry) : Prop :=
  ∀ front e, front ++ [e] <+: es → ∀ now m, e.happening = .move now m →
    ∀ p ∈ accepted front, p.Due now → e.Ends front p

theorem Tracked.ends {t : History} (tracked : Tracked t) {now : Millis} {m : Move}
    (punctual : Entry.Punctual ⟨t.state, .move now m⟩) {p : Pending Nat}
    (accepted : p ∈ accepted t.entries) (due : p.Due now) :
    Entry.Ends t.entries ⟨t.state, .move now m⟩ p := by
  by_cases done : p.asker ∈ (completed t.entries).map (·.1)
  · exact .inl done
  · have waits : p ∈ t.state.pending := by
      rw [tracked.waiting]
      exact List.mem_filter.mpr ⟨accepted, by simpa using done⟩
    have live : t.state.link.channel.ended = false := by
      by_contra ended
      have none_ := tracked.closed (tracked.ended (by simpa using ended)).1
      simp [none_] at waits
    obtain ⟨next, earliest, come⟩ :=
      (t.state.link.channel.requests.nextDeadline?_le now).mpr ⟨p, waits, due⟩
    obtain rfl : m = .expire := punctual now m rfl next earliest come
    have possible := (t.state.link.perform?_expire_isSome now).mpr ⟨live, p, waits, due⟩
    obtain ⟨⟨l', effects⟩, fired⟩ := Option.isSome_iff_exists.mp possible
    obtain ⟨-, same⟩ := t.state.link.perform?_expire now fired
    have shown : Entry.effects ⟨t.state, .move now .expire⟩ =
        (t.state.link.channel.expire now).2 := by
      rw [← same]
      exact congrArg (fun r => (r.getD (t.state.link, [])).2) fired
    obtain ⟨d, deadline, come⟩ := due
    refine .inr ⟨d, deadline, ?_⟩
    rw [Entry.completed, shown, List.mem_filterMap]
    have error : p.expiry = .timeout p.id d.after := by simp [Pending.expiry, deadline]
    refine ⟨_, List.mem_map.mpr ⟨p, List.mem_filter.mpr ⟨waits, ?_⟩, rfl⟩, ?_⟩
    · exact Pending.isOverdue_iff.mpr ⟨d, deadline, come⟩
    · rw [error]
      rfl

theorem inTime_next {t : History} (tracked : Tracked t) (h : Happening)
    (punctual : Entry.Punctual ⟨t.state, h⟩) (inTime : InTime t.entries) :
    InTime (t.next Holding.advance h).entries := by
  intro front e part now m happening
  cases List.prefix_concat_iff.mp part with
  | inl here =>
      obtain ⟨rfl, same⟩ := List.append_inj' here rfl
      cases List.singleton_inj.mp same
      cases happening
      exact fun p accepted due => tracked.ends punctual accepted due
  | inr past => exact inTime front e past now m happening

theorem inTime_run {l : Link Nat} (start : Tracked { state := { link := l } })
    (happenings : List Happening)
    (punctual : ∀ e ∈ (Trace.run Holding.advance { link := l } happenings).entries, e.Punctual) :
    InTime (Trace.run Holding.advance { link := l } happenings).entries := by
  let Kept (t : History) : Prop := Tracked t ∧ ((∀ e ∈ t.entries, e.Punctual) → InTime t.entries)
  have all : Kept (Trace.run Holding.advance { link := l } happenings) := by
    refine Trace.run_invariant (P := Kept) Holding.advance ⟨start, fun _ front e part => ?_⟩ ?_
      happenings
    · exact absurd (List.prefix_nil.mp part) (by simp)
    · rintro t h ⟨tracked, inTime⟩
      refine ⟨tracked.next h, fun punctual => inTime_next tracked h (punctual _ ?_) ?_⟩
      · exact List.mem_append_right _ (List.mem_singleton_self _)
      · exact inTime fun e mem => punctual e (List.mem_append_left _ mem)
  exact all.2 punctual

/-- Exactly the requests whose deadline has come expire. The timer stands at the earliest deadline,
fires when it has come, and does not fire again at that time. However a link is used, nobody waits
beyond a deadline if the timer fires before anything else that is done then. -/
theorem requests_expire_in_time :
    (∀ (ρ : Type) (c : Channel ρ) (now : Millis), Expires c now) ∧
    (∀ (ρ : Type) (rs : Requests ρ),
      (∀ t, rs.nextDeadline? = some t ↔ Earliest rs.pending t) ∧
      (rs.nextDeadline? = none ↔ ∀ p ∈ rs.pending, p.deadline = none)) ∧
    (∀ (ρ : Type) (l : Link ρ) (now : Millis),
      ((l.perform? now .expire).isSome = true ↔
        l.channel.ended = false ∧ ∃ p ∈ l.channel.requests.pending, p.Due now) ∧
      ∀ l' effects, l.perform? now .expire = some (l', effects) →
        (l'.channel, effects) = l.channel.expire now ∧ l'.perform? now .expire = none) ∧
    ∀ (config : Config) (l : Link Nat), l = .overPipe config ∨ l = .overProcess config →
      ∀ happenings : List Happening,
        (∀ e ∈ (Trace.run Holding.advance { link := l } happenings).entries, e.Punctual) →
        InTime (Trace.run Holding.advance { link := l } happenings).entries := by
  refine ⟨fun _ c now => expires c now, fun _ rs => ⟨fun _ => rs.nextDeadline?_eq_some,
    rs.nextDeadline?_eq_none⟩, fun _ l now => ⟨l.perform?_expire_isSome now, ?_⟩, ?_⟩
  · intro l' effects fired
    exact ⟨(l.perform?_expire now fired).2, l.perform?_expire_again now fired⟩
  · rintro config l (rfl | rfl) happenings punctual
    · exact inTime_run (tracked_start _ rfl rfl rfl) happenings punctual
    · exact inTime_run (tracked_start _ rfl rfl rfl) happenings punctual

/-- A request with some time for the reply, which does not come. -/
def unanswered : List Happening :=
  [.ask "state" .null (some 100), .move 0 .command, .move 150 .expire]

/-- The request is completed when the timer fires. -/
theorem requests_expire_in_time_unanswered :
    (∀ e ∈ (Trace.run Holding.advance { link := .overProcess {} } unanswered).entries, e.Punctual) ∧
    InTime (Trace.run Holding.advance { link := .overProcess {} } unanswered).entries ∧
    (completed (Trace.run Holding.advance { link := .overProcess {} } unanswered).entries).map (·.1) =
      [0] := by
  have punctual : ∀ e ∈ (Trace.run Holding.advance { link := .overProcess {} } unanswered).entries,
      e.Punctual := by
    intro e mem now m happening t next come
    rcases mem with _ | ⟨_, _ | ⟨_, _ | ⟨_, none_⟩⟩⟩
    · cases happening
    · cases next
    · cases happening
      rfl
    · cases none_
  have inTime := requests_expire_in_time.2.2.2 {} _ (.inr rfl) unanswered punctual
  exact ⟨punctual, inTime, by decide +kernel⟩

end DebugAdapter.Channel
