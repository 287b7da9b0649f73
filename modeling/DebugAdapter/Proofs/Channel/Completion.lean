import DebugAdapter.Proofs.Channel.Holding
/-!
# How requests are completed

Each request is completed at most once: with the first answer to it, or because its deadline passed
before there was one, or because the channel is gone. A request that the channel has accepted waits
until then, and no request waits on a channel that has reported its end.
-/

namespace DebugAdapter.Channel

/-- Something happens, and it is remembered. -/
def Holding.advance (h : Holding) (happening : Happening) : Holding × Entry :=
  (Entry.after ⟨h, happening⟩, ⟨h, happening⟩)

/-- What has happened to a link. -/
abbrev History := Trace Holding Entry

/-! ## What has become of a request -/

/-- The requests that the channel has accepted. -/
def accepted (es : List Entry) : List (Pending Nat) := es.flatMap (·.accepted?.toList)

/-- The requests that have been completed, and with what. -/
def completed (es : List Entry) : List (Nat × Except RequestError Json) :=
  es.flatMap Entry.completed

theorem accepted_append (es : List Entry) (e : Entry) :
    accepted (es ++ [e]) = accepted es ++ e.accepted?.toList := by
  rw [accepted, List.flatMap_append, List.flatMap_singleton]
  rfl

theorem completed_append (es : List Entry) (e : Entry) :
    completed (es ++ [e]) = completed es ++ e.completed := by
  rw [completed, List.flatMap_append, List.flatMap_singleton]
  rfl

/-- The request has been accepted, and no message since then answers it. -/
inductive Awaited (p : Pending Nat) : List Entry → Prop where
  | accepted (front : List Entry) (e : Entry) (accepted : e.accepted? = some p) :
    Awaited p (front ++ [e])
  | later (front : List Entry) (e : Entry) (awaited : Awaited p front)
      (unanswered : e.answer? p.id = none) : Awaited p (front ++ [e])

theorem mem_accepted_of_awaited {p : Pending Nat} {es : List Entry} (h : Awaited p es) :
    p ∈ accepted es := by
  induction h with
  | accepted front e accepted =>
      rw [accepted_append, accepted]
      exact List.mem_append_right _ (List.mem_singleton_self p)
  | later front e _ _ ih =>
      rw [accepted_append]
      exact List.mem_append_left _ ih

/-- Why the requests are completed that an entry completes; `front` is what happened before it. -/
structure Caused (front : List Entry) (e : Entry) : Prop where
  ok : ∀ i data, (i, .ok data) ∈ e.completed →
    ∃ p, p.asker = i ∧ Awaited p front ∧ e.answer? p.id = some data
  timeout : ∀ i id after, (i, .error (.timeout id after)) ∈ e.completed →
    ∃ p, p.asker = i ∧ Awaited p front ∧ p.id = id ∧
      ∃ d, p.deadline = some d ∧ d.after = after ∧ d.due ≤ e.now
  closed : ∀ i, (i, .error .closed) ∈ e.completed →
    e.after.link.channel.closed = true ∨ e.before.link.channel.isRunning = false
  /-- An answer to a request that waits completes it. -/
  answer : ∀ p ∈ e.before.pending, ∀ data, e.answer? p.id = some data →
    (p.asker, .ok data) ∈ e.completed
  /-- What becomes of a request leaves the others as they are. -/
  others : ∀ p ∈ e.before.pending, p.asker ∉ e.completed.map (·.1) → p ∈ e.after.pending

/-- The request was made after the channel had reported its end, or had ended. -/
def Late (es : List Entry) (i : Nat) : Prop :=
  ∃ front e, front ++ [e] <+: es ∧ e.asks = true ∧ e.before.asked = i ∧
    (e.before.link.channel.ended = true ∨ ∃ e' ∈ front, e'.reportsEnd = true)

/-- Where the requests are, and why those that are completed are completed so. -/
structure Ledger (t : History) : Prop where
  /-- Each request is completed, or waits for a reply, or has still not been looked at. -/
  placed : ((completed t.entries).map (·.1) ++ t.state.pending.map (·.asker) ++
    t.state.link.askers).Perm (List.range t.state.asked)
  /-- The requests that wait are those that were accepted and have not been completed. -/
  waiting : t.state.pending =
    (accepted t.entries).filter fun p => p.asker ∉ (completed t.entries).map (·.1)
  distinct : ((accepted t.entries).map (·.id)).Nodup
  caused : ∀ front e, front ++ [e] <+: t.entries → Caused front e

/-- What each happening keeps. -/
structure Tracked (t : History) : Prop extends Ledger t where
  numbered : ∀ p ∈ accepted t.entries, ∃ n, n ≤ t.state.link.channel.lastId ∧ p.id = toString n
  awaited : ∀ p ∈ t.state.pending, Awaited p t.entries
  closed : t.state.link.channel.closed = true → t.state.pending = []
  ended : t.state.link.channel.ended = true →
    t.state.link.channel.closed = true ∧ t.state.link.commands = []
  reported : ∀ e ∈ t.entries, e.reportsEnd = true → t.state.link.channel.closed = true
  late : ∀ i, Late t.entries i → t.state.link.channel.closed = true ∧ i < t.state.asked ∧
    ∀ p ∈ accepted t.entries, p.asker ≠ i

/-- The channel has looked at all commands that it had not looked at. -/
def handled (t : History) (now : Millis) : History :=
  (List.replicate t.state.link.commands.length (Happening.move now .command)).foldl
    (Trace.next Holding.advance) t

/-- How the requests are settled. -/
structure Settled (t : History) : Prop extends Ledger t where
  once : ((completed t.entries).map (·.1)).Nodup
  /-- Nothing waits once the end has been reported or the channel has ended. -/
  silent : (∃ e ∈ t.entries, e.reportsEnd = true) ∨ t.state.link.channel.ended = true →
    t.state.pending = []
  late : ∀ i, Late t.entries i → ∀ result, (i, result) ∈ completed t.entries →
    result = .error .closed
  lateDone : ∀ i, Late t.entries i → ∀ now, (i, .error .closed) ∈ completed (handled t now).entries

namespace Tracked

variable {t : History} (tracked : Tracked t)
include tracked

theorem distinct_pending : (t.state.pending.map (·.id)).Nodup := by
  rw [tracked.waiting]
  exact tracked.distinct.sublist (List.filter_sublist.map _)

theorem mem_of_accepted {p : Pending Nat} (h : p ∈ accepted t.entries) :
    p.asker ∈ (completed t.entries).map (·.1) ++ t.state.pending.map (·.asker) := by
  by_cases done : p.asker ∈ (completed t.entries).map (·.1)
  · exact List.mem_append_left _ done
  · refine List.mem_append_right _ (List.mem_map_of_mem ?_)
    rw [tracked.waiting]
    exact List.mem_filter.mpr ⟨h, by simpa using done⟩

section

variable (e : Entry) (before : e.before = t.state)
include before

theorem waiting_range :
    ((completed t.entries).map (·.1) ++ (e.before.pending.map (·.asker) ++ e.waiting)).Perm
      (List.range e.after.asked) := by
  have now := tracked.placed
  rw [Entry.waiting, Entry.after, before, ← List.append_assoc, ← List.append_assoc]
  cases e.asks with
  | true =>
      simp only [if_true, List.range_succ]
      exact now.append_right _
  | false => simpa using now

theorem nodup_waiting :
    ((completed t.entries).map (·.1) ++ (e.before.pending.map (·.asker) ++ e.waiting)).Nodup :=
  (tracked.waiting_range e before).nodup_iff.mpr List.nodup_range

theorem lt_of_accepted {p : Pending Nat} (h : p ∈ accepted t.entries) :
    p.asker < t.state.asked ∧ p.asker ∉ e.waiting := by
  have placed := tracked.mem_of_accepted h
  constructor
  · rw [← List.mem_range, ← tracked.placed.mem_iff]
    exact List.mem_append_left _ placed
  · intro waits
    have distinct := tracked.nodup_waiting e before
    rw [← List.append_assoc, before] at distinct
    exact (List.nodup_append.mp distinct).2.2 _ placed _ waits rfl

theorem placed_next :
    ((completed (t.entries ++ [e])).map (·.1) ++ e.after.pending.map (·.asker) ++
      e.after.link.askers).Perm (List.range e.after.asked) := by
  have ids : (e.before.pending.map (·.id)).Nodup := before ▸ tracked.distinct_pending
  refine .trans ?_ (tracked.waiting_range e before)
  rw [completed_append, List.map_append, List.append_assoc, List.append_assoc,
    ← List.append_assoc (e.completed.map (·.1))]
  exact (e.askers_perm ids).append_left _

theorem waiting_next :
    e.after.pending = (accepted (t.entries ++ [e])).filter
      fun p => p.asker ∉ (completed (t.entries ++ [e])).map (·.1) := by
  have ids : (e.before.pending.map (·.id)).Nodup := before ▸ tracked.distinct_pending
  have distinct := tracked.nodup_waiting e before
  rw [e.pending_eq ids (List.nodup_append.mp distinct).2.1, accepted_append, completed_append,
    List.filter_append, before, tracked.waiting, List.filter_filter]
  congr 1
  · refine List.filter_congr (fun p _ => ?_)
    rw [Bool.eq_iff_iff]
    simp only [Bool.and_eq_true, decide_eq_true_eq, List.map_append, List.mem_append, not_or]
    exact and_comm
  · cases new : e.accepted? with
    | none => rfl
    | some p =>
        obtain ⟨waits, -, -, -, none_⟩ := e.accepted?_eq new
        have fresh : p.asker ∉ (completed t.entries).map (·.1) := fun done =>
          (List.nodup_append.mp distinct).2.2 _ done _ (List.mem_append_right _ waits) rfl
        rw [none_, List.append_nil, Option.toList_some, eq_comm, List.filter_eq_self]
        intro q mem
        rw [List.mem_singleton.mp mem]
        exact decide_eq_true fresh

theorem numbered_next : ∀ p ∈ accepted (t.entries ++ [e]),
    ∃ n, n ≤ e.after.link.channel.lastId ∧ p.id = toString n := by
  intro p mem
  rw [accepted_append] at mem
  cases List.mem_append.mp mem with
  | inl past =>
      obtain ⟨n, le, id⟩ := tracked.numbered p past
      exact ⟨n, Nat.le_trans le (before ▸ e.lastId_le), id⟩
  | inr new =>
      obtain ⟨-, id, next, -⟩ := e.accepted?_eq (Option.mem_toList.mp new)
      exact ⟨_, Nat.le_of_eq next.symm, id⟩

theorem distinct_next : ((accepted (t.entries ++ [e])).map (·.id)).Nodup := by
  rw [accepted_append]
  cases new : e.accepted? with
  | none =>
      rw [Option.toList_none, List.append_nil]
      exact tracked.distinct
  | some p =>
      obtain ⟨-, id, -⟩ := e.accepted?_eq new
      rw [Option.toList_some, List.map_append, List.map_singleton, List.nodup_append]
      refine ⟨tracked.distinct, List.nodup_singleton _, ?_⟩
      intro id' mem id'' mem' same
      obtain ⟨q, past, rfl⟩ := List.mem_map.mp mem
      obtain ⟨n, le, old⟩ := tracked.numbered q past
      rw [List.mem_singleton.mp mem', old, id, before] at same
      exact absurd (Nat.repr_injective same) (by omega)

theorem awaited_next : ∀ p ∈ e.after.pending, Awaited p (t.entries ++ [e]) := by
  intro p mem
  have ids : (e.before.pending.map (·.id)).Nodup := before ▸ tracked.distinct_pending
  have distinct := tracked.nodup_waiting e before
  have parts := mem
  rw [e.pending_eq ids (List.nodup_append.mp distinct).2.1] at parts
  cases List.mem_append.mp parts with
  | inl past =>
      have past := List.mem_of_mem_filter past
      exact .later _ _ (tracked.awaited p (before ▸ past)) (e.answer?_of_waiting past mem)
  | inr new => exact .accepted _ _ (Option.mem_toList.mp new)

theorem caused_next : Caused t.entries e where
  ok := by
    intro i data h
    obtain ⟨p, waits, asker, answer⟩ := e.ok_cause h
    exact ⟨p, asker, tracked.awaited p (before ▸ waits), answer⟩
  timeout := by
    intro i id after h
    obtain ⟨p, waits, asker, id, deadline⟩ := e.timeout_cause h
    exact ⟨p, asker, tracked.awaited p (before ▸ waits), id, deadline⟩
  closed := by
    intro i h
    exact e.closed_cause (before ▸ fun ended => (tracked.ended ended).1) h
  answer := by
    intro p waits data answer
    exact e.completed_of_answer (before ▸ tracked.distinct_pending) waits answer
  others := by
    intro p waits left
    have distinct := tracked.nodup_waiting e before
    rw [e.pending_eq (before ▸ tracked.distinct_pending) (List.nodup_append.mp distinct).2.1]
    exact List.mem_append_left _ (List.mem_filter.mpr ⟨waits, decide_eq_true left⟩)

theorem late_next (i : Nat) (late : Late (t.entries ++ [e]) i) :
    e.after.link.channel.closed = true ∧ i < e.after.asked ∧
      ∀ p ∈ accepted (t.entries ++ [e]), p.asker ≠ i := by
  have more : t.state.asked ≤ e.after.asked := by
    rw [Entry.after, before]
    split <;> simp
  obtain ⟨front, e', part, asks, number, gone⟩ := late
  -- Either the late request is made now, or it was made before and is not accepted now either.
  cases List.prefix_concat_iff.mp part with
  | inl here =>
      obtain ⟨rfl, same⟩ := List.append_inj' here rfl
      cases List.singleton_inj.mp same
      have closed : e.before.link.channel.closed = true := by
        rw [before] at gone ⊢
        cases gone with
        | inl ended => exact (tracked.ended ended).1
        | inr reported =>
            obtain ⟨e'', past, reported⟩ := reported
            exact tracked.reported e'' past reported
      refine ⟨e.closed_of_closed closed, ?_, ?_⟩
      · rw [← number, Entry.after, asks]
        exact Nat.lt_succ_self _
      · intro p mem
        rw [accepted_append, e.accepted?_of_asks asks, Option.toList_none, List.append_nil] at mem
        rw [← number, before]
        exact Nat.ne_of_lt (tracked.lt_of_accepted e before mem).1
  | inr past =>
      obtain ⟨closed, lt, never⟩ := tracked.late i ⟨front, e', past, asks, number, gone⟩
      refine ⟨e.closed_of_closed (before ▸ closed), Nat.lt_of_lt_of_le lt more, ?_⟩
      intro p mem
      rw [accepted_append] at mem
      cases List.mem_append.mp mem with
      | inl past => exact never p past
      | inr new =>
          obtain ⟨-, -, -, open_, -⟩ := e.accepted?_eq (Option.mem_toList.mp new)
          rw [before, closed] at open_
          cases open_

end

/-! ## Late requests -/

theorem late_result {i : Nat} (late : Late t.entries i) {result : Except RequestError Json}
    (h : (i, result) ∈ completed t.entries) : result = .error .closed := by
  obtain ⟨-, -, never⟩ := tracked.late i late
  obtain ⟨e, mem, here⟩ := List.mem_flatMap.mp h
  obtain ⟨front, back, parts⟩ := List.append_of_mem mem
  have part : front ++ [e] <+: t.entries := ⟨back, by simp [parts]⟩
  have before (p : Pending Nat) (awaited : Awaited p front) : p.asker ≠ i := by
    refine never p ?_
    rw [parts, accepted, List.flatMap_append]
    exact List.mem_append_left _ (mem_accepted_of_awaited awaited)
  have caused := tracked.caused front e part
  -- What is answered or runs out of time has been accepted, and a late request never is.
  match result with
  | .ok data =>
      obtain ⟨p, asker, awaited, -⟩ := caused.ok i data here
      exact absurd asker (before p awaited)
  | .error (.timeout id after) =>
      obtain ⟨p, asker, awaited, -⟩ := caused.timeout i id after here
      exact absurd asker (before p awaited)
  | .error .closed => rfl

theorem next (h : Happening) : Tracked (t.next Holding.advance h) where
  placed := tracked.placed_next ⟨t.state, h⟩ rfl
  waiting := tracked.waiting_next ⟨t.state, h⟩ rfl
  distinct := tracked.distinct_next ⟨t.state, h⟩ rfl
  caused := by
    intro front e part
    cases List.prefix_concat_iff.mp part with
    | inl here =>
        obtain ⟨rfl, same⟩ := List.append_inj' here rfl
        cases List.singleton_inj.mp same
        exact tracked.caused_next _ rfl
    | inr past => exact tracked.caused front e past
  numbered := tracked.numbered_next ⟨t.state, h⟩ rfl
  awaited := tracked.awaited_next ⟨t.state, h⟩ rfl
  closed := (⟨t.state, h⟩ : Entry).pending_of_closed tracked.closed
  ended := (⟨t.state, h⟩ : Entry).closed_of_ended tracked.ended
  reported := by
    intro e mem reported
    cases List.mem_append.mp mem with
    | inl past => exact Entry.closed_of_closed _ (tracked.reported e past reported)
    | inr here =>
        cases List.mem_singleton.mp here
        exact Entry.closed_of_reported _ reported
  late := tracked.late_next ⟨t.state, h⟩ rfl

end Tracked

theorem Late.mono {es es' : List Entry} {i : Nat} (h : Late es i) (part : es <+: es') :
    Late es' i := by
  obtain ⟨front, e, here, asks, number, gone⟩ := h
  exact ⟨front, e, here.trans part, asks, number, gone⟩

/-- The channel looks at the first command, if there is one. -/
theorem length_commands (h : Holding) (now : Millis)
    (ended : h.link.channel.ended = true → h.link.commands = []) :
    (Entry.after ⟨h, .move now .command⟩).link.commands.length ≤ h.link.commands.length - 1 := by
  obtain ⟨l, asked⟩ := h
  change ((l.perform? now .command).getD (l, [])).1.commands.length ≤ l.commands.length - 1
  cases live : l.channel.ended with
  | true => simp [Link.perform?, live, show l.commands = [] from ended live]
  | false =>
      cases commands : l.commands with
      | nil =>
          by_cases holders : l.holders = 0
          · simp [Link.perform?, live, commands, holders, Link.step]
          · simp [Link.perform?, live, commands, holders]
      | cons c rest =>
          simp only [Link.perform?, live, commands, Link.step, Bool.false_eq_true, if_false,
            Option.getD_some, List.length_cons, Nat.add_sub_cancel]
          split <;> simp

theorem commands_handled (n : Nat) (now : Millis) {t : History} (tracked : Tracked t)
    (few : t.state.link.commands.length ≤ n) :
    ((List.replicate n (Happening.move now .command)).foldl
      (Trace.next Holding.advance) t).state.link.commands = [] := by
  induction n generalizing t with
  | zero => exact List.length_eq_zero_iff.mp (Nat.le_zero.mp few)
  | succ n ih =>
      refine ih (tracked.next _) ?_
      have := length_commands t.state now (fun ended => (tracked.ended ended).2)
      exact Nat.le_trans this (by omega)

theorem settled_of_tracked {t : History} (tracked : Tracked t) : Settled t where
  toLedger := tracked.toLedger
  once := by
    have all := tracked.placed.nodup_iff.mpr List.nodup_range
    rw [List.append_assoc] at all
    exact (List.nodup_append.mp all).1
  silent := by
    rintro (⟨e, mem, reported⟩ | ended)
    · exact tracked.closed (tracked.reported e mem reported)
    · exact tracked.closed (tracked.ended ended).1
  late := fun i late result h => tracked.late_result late h
  lateDone := by
    intro i late now
    have tracked' : Tracked (handled t now) :=
      Trace.foldl_invariant (P := Tracked) Holding.advance
        (fun _ h tracked => tracked.next h) _ tracked
    have late' := late.mono (Trace.entries_prefix_foldl Holding.advance
      (List.replicate t.state.link.commands.length (.move now .command)) t)
    obtain ⟨closed, lt, -⟩ := tracked'.late i late'
    have commands := commands_handled _ now tracked (Nat.le_refl _)
    have mem := tracked'.placed.mem_iff.mpr (List.mem_range.mpr lt)
    rw [tracked'.closed closed, Link.askers,
      show (handled t now).state.link.commands = [] from commands, List.filterMap_nil,
      List.map_nil, List.append_nil, List.append_nil] at mem
    obtain ⟨⟨i', result⟩, here, rfl⟩ := List.mem_map.mp mem
    rwa [← tracked'.late_result late' here]

theorem tracked_start (l : Link Nat) (pending : l.channel.requests.pending = [])
    (commands : l.commands = []) (live : l.channel.ended = false) :
    Tracked { state := { link := l } } where
  placed := by simp [completed, Holding.pending, pending, Link.askers, commands]
  waiting := pending
  distinct := List.nodup_nil
  caused := by
    intro front e part
    exact absurd (List.prefix_nil.mp part) (by simp)
  numbered := by simp [accepted]
  awaited := by simp [Holding.pending, pending]
  closed := fun _ => pending
  ended := fun ended => absurd ended (by simp [live])
  reported := by simp
  late := by
    rintro i ⟨front, e, part, -⟩
    exact absurd (List.prefix_nil.mp part) (by simp)

/-- Whatever happens to a link, in whatever order: each request is completed at most once and for
the right reason, those that are not wait, and none waits on a channel that is gone. -/
theorem run_settled (config : Config) (happenings : List Happening) :
    Settled (Trace.run Holding.advance { link := .overPipe config } happenings) ∧
      Settled (Trace.run Holding.advance { link := .overProcess config } happenings) := by
  have settled (l : Link Nat) (start : Tracked { state := { link := l } }) :
      Settled (Trace.run Holding.advance { link := l } happenings) :=
    settled_of_tracked (Trace.run_invariant (P := Tracked) Holding.advance start
      (fun _ h tracked => tracked.next h) happenings)
  exact ⟨settled _ (tracked_start _ rfl rfl rfl), settled _ (tracked_start _ rfl rfl rfl)⟩

end DebugAdapter.Channel
