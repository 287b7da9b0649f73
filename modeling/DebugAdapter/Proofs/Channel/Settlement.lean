import DebugAdapter.Proofs.Channel.Queue
import DebugAdapter.Proofs.Channel.Requests
/-!
# What a step settles

For each kind of completion what the step heard, and which requests wait after the step: those that
waited and were not completed, and the one that was accepted.
-/

namespace DebugAdapter.Channel

namespace Occasion

/-- An element of a list without repeated keys is the only one with its key. -/
theorem filter_key {α β : Type} [BEq β] [LawfulBEq β] {f : α → β} {l : List α}
    (distinct : (l.map f).Nodup) {a : α} (mem : a ∈ l) : l.filter (fun b => f b == f a) = [a] := by
  induction l with
  | nil => cases mem
  | cons b l ih =>
      obtain ⟨fresh, rest⟩ := List.nodup_cons.mp distinct
      cases List.mem_cons.mp mem with
      | inl same =>
          subst same
          have none_ : l.filter (fun b => f b == f a) = [] := by
            refine List.filter_eq_nil_iff.mpr (fun b mem same => fresh ?_)
            exact List.mem_map.mpr ⟨b, mem, eq_of_beq same⟩
          simp [none_]
      | inr mem =>
          have other : f b ≠ f a := fun same => fresh (List.mem_map.mpr ⟨a, mem, same.symm⟩)
          simp [other, ih rest mem]

variable {ρ : Type} (o : Occasion ρ) (live : o.before.ended = false)

theorem accepted?_eq {p : Pending ρ} (h : o.accepted? = some p) :
    o.asker? = some p.asker ∧ p.id = toString (o.before.lastId + 1) ∧
      o.before.closed = false ∧ o.enqueued.length = if o.before.ended then 0 else 1 := by
  obtain ⟨c, env, input⟩ := o
  unfold accepted? at h
  split at h
  · rename_i asker type data timeout request
    cases request
    split at h
    · cases h
    · rename_i open_
      cases h
      refine ⟨rfl, rfl, ?_, ?_⟩
      · simp_all
      · simp only [enqueued, open_]
        split <;> rfl
  · cases h

theorem answer?_of_asker? {a : ρ} (h : o.asker? = some a) (id : String) : o.answer? id = none := by
  obtain ⟨c, env, input⟩ := o
  cases input <;> first | rfl | cases h

theorem accepted?_of_asker? (h : o.asker? = none) : o.accepted? = none := by
  cases accepted : o.accepted? with
  | none => rfl
  | some p => rw [(o.accepted?_eq accepted).1] at h; cases h

theorem lastId_le : o.before.lastId ≤ o.after.lastId := by
  rw [o.queueStep.lastId]
  exact Nat.le_add_right _ _

include live

theorem closed_of_closed (closed : o.before.closed = true) : o.after.closed = true := by
  cases o.settling live with
  | idle calm | refused _ calm | accepted _ calm | answered _ _ calm | expired calm =>
      exact calm.closed.trans closed
  | failed closed => exact closed

/-- The end is reported only in a step that closes the channel. -/
theorem closed_of_reported (reported : o.effects.any Effect.isClosed = true) :
    o.after.closed = true := by
  cases o.settling live with
  | idle calm | refused _ calm | accepted _ calm | answered _ _ calm | expired calm =>
      rw [calm.silent] at reported
      cases reported
  | failed closed => exact closed

theorem closed_of_ended (ended : o.after.ended = true) : o.after.closed = true := by
  cases o.settling live with
  | idle calm | refused _ calm | accepted _ calm | answered _ _ calm | expired calm =>
      rw [calm.ended] at ended
      cases ended
  | failed closed => exact closed

/-- A channel that is closed has no requests left. -/
theorem pending_of_closed (before : o.before.closed = true → o.before.requests.pending = [])
    (closed : o.after.closed = true) : o.after.requests.pending = [] := by
  cases o.settling live with
  | idle calm _ _ pending | refused _ calm _ _ _ _ pending =>
      rw [pending]
      exact before (calm.closed.symm.trans closed)
  | accepted _ calm _ _ open_ =>
      rw [calm.closed, open_] at closed
      cases closed
  | answered _ _ calm _ _ _ _ pending | expired calm _ _ pending =>
      rw [pending, before (calm.closed.symm.trans closed)]
      rfl
  | failed _ _ _ _ _ pending => exact pending

/-- A step that accepts a request completes none. -/
theorem calm_of_accepted {p : Pending ρ} (h : o.accepted? = some p) :
    o.Calm ∧ o.completed = [] := by
  obtain ⟨asked, -⟩ := o.accepted?_eq h
  cases o.settling live with
  | idle _ asker | answered _ _ _ asker => rw [asked] at asker; cases asker
  | refused _ _ _ accepted => rw [h] at accepted; cases accepted
  | accepted _ calm _ _ _ completed => exact ⟨calm, completed⟩
  | expired _ input => rw [asker?, input] at asked; cases asked
  | failed _ _ asker => rw [asked] at asker; cases asker

/-! ## Causes of completions -/

theorem ok_cause {a : ρ} {data : Json} (h : (a, .ok data) ∈ o.completed) :
    ∃ p ∈ o.before.requests.pending, p.asker = a ∧ o.answer? p.id = some data := by
  cases o.settling live with
  | idle _ _ completed | accepted _ _ _ _ _ completed => simp [completed] at h
  | refused _ _ _ _ _ completed => simp [completed] at h
  | answered p data' _ _ waiting answer completed =>
      rw [completed] at h
      cases List.mem_singleton.mp h
      exact ⟨p, waiting, rfl, answer⟩
  | expired _ _ completed => simp [completed] at h
  | failed _ _ _ _ completed => simp [completed, abandonment] at h

theorem timeout_cause {a : ρ} {id : String} {after : Millis}
    (h : (a, .error (.timeout id after)) ∈ o.completed) :
    ∃ p ∈ o.before.requests.pending, p.asker = a ∧ p.id = id ∧
      ∃ d, p.deadline = some d ∧ d.after = after ∧ d.due ≤ o.env.now := by
  cases o.settling live with
  | idle _ _ completed | accepted _ _ _ _ _ completed => simp [completed] at h
  | refused _ _ _ _ _ completed | answered _ _ _ _ _ _ completed => simp [completed] at h
  | expired _ _ completed =>
      rw [completed] at h
      obtain ⟨p, mem, same⟩ := List.mem_map.mp h
      obtain ⟨waiting, overdue⟩ := List.mem_filter.mp mem
      cases deadline : p.deadline with
      | none => simp [Pending.isOverdue, deadline] at overdue
      | some d =>
          simp only [Pending.isOverdue, deadline, decide_eq_true_eq] at overdue
          simp only [Pending.expiry, deadline, Prod.mk.injEq, Except.error.injEq,
            RequestError.timeout.injEq] at same
          exact ⟨p, waiting, same.1, same.2.1, d, deadline, same.2.2, overdue⟩
  | failed _ _ _ _ completed => simp [completed, abandonment] at h

theorem closed_cause {a : ρ} (h : (a, .error .closed) ∈ o.completed) :
    o.after.closed = true ∨ o.before.isRunning = false := by
  cases o.settling live with
  | idle _ _ completed | accepted _ _ _ _ _ completed => simp [completed] at h
  | refused _ calm _ _ gone => exact gone.imp_left calm.closed.trans
  | answered _ _ _ _ _ _ completed => simp [completed] at h
  | expired _ _ completed => simp [completed, Pending.expiry] at h
  | failed closed => exact .inl closed

/-! ## The requests that wait -/

/-- A request that still waits has not been answered. -/
theorem answer?_of_waiting {p : Pending ρ} (before : p ∈ o.before.requests.pending)
    (after : p ∈ o.after.requests.pending) : o.answer? p.id = none := by
  cases o.settling live with
  | idle _ _ _ _ unanswered => exact unanswered p before
  | refused _ _ asked | accepted _ _ asked => exact o.answer?_of_asker? asked p.id
  | answered q _ _ _ _ _ _ pending unanswered =>
      rw [pending] at after
      exact unanswered p.id (by simpa using (List.mem_filter.mp after).2)
  | expired _ input => rw [answer?, input]
  | failed _ _ _ unanswered => exact unanswered p.id

section

variable (ids : (o.before.requests.pending.map (·.id)).Nodup)
include ids

/-- An answer completes the request that it names. -/
theorem completed_of_answer {p : Pending ρ} (waiting : p ∈ o.before.requests.pending) {data : Json}
    (answer : o.answer? p.id = some data) : (p.asker, .ok data) ∈ o.completed := by
  cases o.settling live with
  | idle _ _ _ _ unanswered => rw [unanswered p waiting] at answer; cases answer
  | refused _ _ asked | accepted _ _ asked =>
      rw [o.answer?_of_asker? asked] at answer
      cases answer
  | answered q data' _ _ waiting' answer' completed _ unanswered =>
      have same : p.id = q.id := by
        by_contra other
        rw [unanswered p.id other] at answer
        cases answer
      cases List.inj_on_of_nodup_map ids waiting waiting' same
      rw [answer] at answer'
      cases answer'
      rw [completed]
      exact List.mem_singleton_self _
  | expired _ input =>
      have none_ : o.answer? p.id = none := by rw [answer?, input]
      rw [none_] at answer
      cases answer
  | failed _ _ _ unanswered => rw [unanswered] at answer; cases answer

/-- Who asks in the step or waited before it has been answered or waits. -/
theorem askers_perm :
    (o.completed.map (·.1) ++ o.after.requests.pending.map (·.asker)).Perm
      (o.asker?.toList ++ o.before.requests.pending.map (·.asker)) := by
  cases o.settling live with
  | idle _ asker completed pending => simp [asker, completed, pending]
  | refused a _ asked _ _ completed pending => simp [asked, completed, pending]
  | accepted p _ asked _ _ completed pending =>
      simp only [asked, completed, pending, List.map_append, List.map_nil, List.nil_append]
      exact List.perm_append_comm
  | answered p data _ asker waiting _ completed pending =>
      have parts := List.filter_append_perm (·.id == p.id) o.before.requests.pending
      rw [filter_key ids waiting] at parts
      simp only [asker, completed, pending]
      exact parts.map (·.asker)
  | expired _ input completed pending =>
      have asker : o.asker? = none := by rw [asker?, input]
      simp only [asker, completed, pending, List.map_map, Option.toList_none, List.nil_append]
      rw [show ((·.1) ∘ fun p : Pending ρ => (p.asker, Except.error p.expiry)) = (·.asker) from rfl,
        ← List.map_append]
      exact (List.filter_append_perm _ _).map _
  | failed _ _ asker _ completed pending =>
      simp [asker, completed, pending, abandonment, Function.comp_def]

/-- The same with the requests that the step does not look at; they fail if the channel ends. -/
theorem askers_left_perm (left : List ρ) :
    (o.completed.map (·.1) ++ (if o.after.ended then left else []) ++
      o.after.requests.pending.map (·.asker) ++ if o.after.ended then [] else left).Perm
      (o.before.requests.pending.map (·.asker) ++ (o.asker?.toList ++ left)) := by
  have here := Multiset.coe_eq_coe.mpr (o.askers_perm live ids)
  rw [← Multiset.coe_eq_coe]
  simp only [← Multiset.coe_add] at here ⊢
  rw [add_right_comm _ _ (o.after.requests.pending.map (·.asker) : Multiset ρ), here]
  cases o.after.ended <;> simp only [if_true, Bool.false_eq_true, if_false, Multiset.coe_nil] <;> abel

/-- After a step those requests wait that waited before it and are not completed, and the one that
the step accepts. -/
theorem pending_eq [DecidableEq ρ]
    (askers : (o.asker?.toList ++ o.before.requests.pending.map (·.asker)).Nodup) :
    o.after.requests.pending =
      o.before.requests.pending.filter (fun p => p.asker ∉ o.completed.map (·.1)) ++
        o.accepted?.toList := by
  have distinct := (List.nodup_append.mp askers).2.1
  cases o.settling live with
  | idle _ asker completed pending =>
      simp [pending, completed, o.accepted?_of_asker? asker]
  | refused a _ asked accepted _ completed pending =>
      rw [asked] at askers
      have fresh := (List.nodup_cons.mp askers).1
      rw [pending, completed, accepted, Option.toList_none, List.append_nil, eq_comm,
        List.filter_eq_self]
      intro p mem
      have other : p.asker ≠ a := fun same => fresh (List.mem_map.mpr ⟨p, mem, same⟩)
      simpa using other
  | accepted p _ _ accepted _ completed pending => simp [pending, completed, accepted]
  | answered p data _ asker waiting _ completed pending =>
      rw [pending, completed, o.accepted?_of_asker? asker, Option.toList_none, List.append_nil]
      refine List.filter_congr (fun q mem => ?_)
      -- Numbers and askers both tell the requests that wait apart.
      have same : q.id = p.id ↔ q.asker = p.asker :=
        ⟨fun same => by rw [List.inj_on_of_nodup_map ids mem waiting same],
          fun same => by rw [List.inj_on_of_nodup_map distinct mem waiting same]⟩
      rw [Bool.eq_iff_iff, bne_iff_ne, ne_eq, same]
      simp
  | expired _ input completed pending =>
      have asker : o.asker? = none := by rw [asker?, input]
      rw [pending, completed, o.accepted?_of_asker? asker, Option.toList_none, List.append_nil]
      refine List.filter_congr (fun q mem => ?_)
      have same : (∃ p ∈ o.before.requests.pending, p.isOverdue o.env.now = true ∧
          p.asker = q.asker) ↔ q.isOverdue o.env.now = true := by
        constructor
        · rintro ⟨p, mem', overdue, same⟩
          exact List.inj_on_of_nodup_map distinct mem' mem same ▸ overdue
        · exact fun overdue => ⟨q, mem, overdue, rfl⟩
      rw [Bool.eq_iff_iff, Bool.not_eq_true', ← Bool.not_eq_true, ← same]
      simp
  | failed _ _ asker _ completed pending =>
      rw [pending, completed, o.accepted?_of_asker? asker, Option.toList_none, List.append_nil,
        eq_comm, List.filter_eq_nil_iff]
      intro p mem
      simp only [abandonment, List.map_map, decide_eq_true_eq, Decidable.not_not]
      exact List.mem_map.mpr ⟨p, mem, rfl⟩

end

end Occasion

/-! ## The numbers of the requests that wait -/

variable {ρ : Type}

/-- The requests that wait have numbers of their own, none of which is still to come. -/
structure Numbered (c : Channel ρ) : Prop where
  distinct : (c.requests.pending.map (·.id)).Nodup
  past : ∀ p ∈ c.requests.pending, ∃ n, n ≤ c.lastId ∧ p.id = toString n

namespace Numbered

theorem of_pending_nil {c : Channel ρ} (pending : c.requests.pending = []) : Numbered c := by
  constructor <;> simp [pending]

/-- Fewer requests wait. -/
theorem sublist {c c' : Channel ρ} (numbered : Numbered c) (lastId : c.lastId ≤ c'.lastId)
    (fewer : c'.requests.pending.Sublist c.requests.pending) : Numbered c' where
  distinct := numbered.distinct.sublist (fewer.map _)
  past := by
    intro p mem
    obtain ⟨n, le, id⟩ := numbered.past p (fewer.subset mem)
    exact ⟨n, le.trans lastId, id⟩

/-- One more request waits, with a new number. -/
theorem concat {c c' : Channel ρ} (numbered : Numbered c) (lastId : c'.lastId = c.lastId + 1)
    {p : Pending ρ} (id : p.id = toString (c.lastId + 1))
    (more : c'.requests.pending = c.requests.pending ++ [p]) : Numbered c' := by
  have fresh : p.id ∉ c.requests.pending.map (·.id) := by
    intro mem
    obtain ⟨q, waits, same⟩ := List.mem_map.mp mem
    obtain ⟨n, le, old⟩ := numbered.past q waits
    rw [old, id] at same
    exact absurd (Nat.repr_injective same) (by omega)
  constructor
  · rw [more, List.map_append, List.map_singleton]
    exact List.concat_eq_append ▸ numbered.distinct.concat fresh
  · intro q mem
    rw [more] at mem
    cases List.mem_append.mp mem with
    | inl waits =>
        obtain ⟨n, le, old⟩ := numbered.past q waits
        exact ⟨n, by omega, old⟩
    | inr new => exact ⟨_, lastId.ge, List.mem_singleton.mp new ▸ id⟩

theorem after {o : Occasion ρ} (numbered : Numbered o.before) : Numbered o.after := by
  cases live : o.before.ended with
  | true =>
      have same : o.after = o.before := by simp [Occasion.after, step, live]
      rw [same]
      exact numbered
  | false =>
      cases o.settling live with
      | idle _ _ _ pending | refused _ _ _ _ _ _ pending =>
          exact numbered.sublist o.lastId_le (pending ▸ List.Sublist.refl _)
      | accepted p _ _ accepted _ _ pending =>
          obtain ⟨-, id, -, count⟩ := o.accepted?_eq accepted
          apply numbered.concat _ id pending
          rw [o.queueStep.lastId, count, live]
          rfl
      | answered _ _ _ _ _ _ _ pending | expired _ _ _ pending =>
          exact numbered.sublist o.lastId_le (pending ▸ List.filter_sublist)
      | failed _ _ _ _ _ pending => exact .of_pending_nil pending

end Numbered

end DebugAdapter.Channel
