import DebugAdapter.Proofs.Channel.Link
import DebugAdapter.Proofs.Channel.Settlement
/-!
# A channel and its holders

What may happen to a link, in any order: its holders ask for something, send, or stop the channel;
the other ends of the pipes and the process do as they please; holders let go; and the link makes a
move at some time. The requests are told apart by their numbers.
-/

namespace DebugAdapter.Channel

open Framing (Line Pipe)

/-- What happens. -/
inductive Happening where
  | ask (type : String) (data : Json) (timeout : Option Millis)
  | tell (type : String) (data : Json) (reply : Option String)
  | stop
  /-- Others leave the pipes, the process and the number of holders like this. -/
  | outside (line : Line) (complaints : Pipe) (fate : Option (Option Int)) (holders : Nat)
  | move (now : Millis) (m : Move)

/-- A link, and how many requests its holders have made. -/
structure Holding where
  link : Link Nat
  asked : Nat := 0

/-- The requests that wait. -/
def Holding.pending (h : Holding) : List (Pending Nat) := h.link.channel.requests.pending

/-- Something that happened, and what was there before. -/
structure Entry where
  before : Holding
  happening : Happening

namespace Entry

/-- What comes of it. A channel that has ended turns requests away. -/
def outcome (e : Entry) : Link Nat × List (Effect Nat) :=
  let l := e.before.link
  match e.happening with
  | .ask type data timeout =>
    match l.send? (.request e.before.asked type data timeout) with
    | some l => (l, [])
    | none => (l, [.complete e.before.asked (.error .closed)])
  | .tell type data reply => ((l.send? (.send type data reply)).getD l, [])
  | .stop => ((l.send? .stop).getD l, [])
  | .outside line complaints fate holders => ({ l with line, complaints, fate, holders }, [])
  | .move now m => (l.perform? now m).getD (l, [])

/-- Whether a request is made. -/
def asks (e : Entry) : Bool :=
  match e.happening with
  | .ask .. => true
  | _ => false

def after (e : Entry) : Holding :=
  { link := e.outcome.1, asked := if e.asks then e.before.asked + 1 else e.before.asked }

def effects (e : Entry) : List (Effect Nat) := e.outcome.2

/-- The step that the channel takes, if it takes one. -/
def occasion? (e : Entry) : Option (Occasion Nat) :=
  match e.happening with
  | .move now m => e.before.link.occasion? now m
  | _ => none

/-- The time of the channel's step. -/
def now (e : Entry) : Millis :=
  match e.happening with
  | .move now _ => now
  | _ => 0

/-- The request that the channel accepts. -/
def accepted? (e : Entry) : Option (Pending Nat) := e.occasion?.bind (·.accepted?)

/-- What is answered to the request with a number. -/
def answer? (e : Entry) (id : String) : Option Json := e.occasion?.bind (·.answer? id)

/-- The requests that are completed, and with what. -/
def completed (e : Entry) : List (Nat × Except RequestError Json) :=
  e.effects.filterMap Effect.completion?

/-- Whether the end is reported. -/
def reportsEnd (e : Entry) : Bool := e.effects.any Effect.isClosed

/-- The requests that the channel has not looked at yet, among them one that is just made. -/
def waiting (e : Entry) : List Nat :=
  e.before.link.askers ++ if e.asks then [e.before.asked] else []

/-- What an entry changes. -/
inductive Change (e : Entry) : Prop where
  /-- The channel takes a step; `left` are the requests that it has still not looked at. -/
  | heard (o : Occasion Nat) (left : List Nat) (occasion : e.occasion? = some o)
      (before : o.before = e.before.link.channel) (live : o.before.ended = false)
      (now : o.env.now = e.now) (channel : e.after.link.channel = o.after)
      (waiting : e.waiting = o.asker?.toList ++ left)
      (commands : e.after.link.channel.ended = true → e.after.link.commands = [])
      (askers : e.after.link.askers = if o.after.ended then [] else left)
      (completed : e.completed =
        o.completed ++ if o.after.ended then left.map fun a => (a, .error .closed) else [])
      (reported : e.reportsEnd = o.effects.any Effect.isClosed)
      (events : e.effects.filterMap Effect.event? = o.events)
      (written : e.effects.filterMap Effect.written? = o.written)
  /-- The channel takes none; `away` are the requests that are turned away. -/
  | unheard (away : List Nat) (occasion : e.occasion? = none)
      (channel : e.after.link.channel = e.before.link.channel)
      (waiting : e.waiting = e.after.link.askers ++ away)
      (commands : e.after.link.channel.ended = true → e.after.link.commands = e.before.link.commands)
      (ended : away ≠ [] → e.before.link.channel.ended = true)
      (completed : e.completed = away.map fun a => (a, .error .closed))
      (silent : e.reportsEnd = false)
      (complaints : ∀ event ∈ e.effects.filterMap Effect.event?, ∃ text, event = .complaint text)
      (written : e.effects.filterMap Effect.written? = [])

section

variable (l : Link Nat) (asked : Nat)

theorem change_ask (type : String) (data : Json) (timeout : Option Millis) :
    Change ⟨⟨l, asked⟩, .ask type data timeout⟩ := by
  cases ended : l.channel.ended with
  | true =>
      refine .unheard [asked] rfl ?_ ?_ ?_ (fun _ => ended) ?_ ?_ ?_ ?_ <;>
        simp [after, outcome, waiting, completed, effects, reportsEnd, Link.send?, ended, asks,
          Effect.completion?, Effect.isClosed, Effect.event?, Effect.written?]
  | false =>
      refine .unheard [] rfl ?_ ?_ ?_ (absurd rfl ·) ?_ ?_ ?_ ?_ <;>
        simp [after, outcome, waiting, completed, effects, reportsEnd, Link.send?, ended, asks,
          Link.askers, Command.asker?]

/-- A command that asks for nothing leaves the requests alone, whether the channel takes it or not. -/
theorem change_send (happening : Happening) (c : Command Nat) (other : c.asker? = none)
    (outcome : Entry.outcome ⟨⟨l, asked⟩, happening⟩ = ((l.send? c).getD l, []))
    (occasion : Entry.occasion? ⟨⟨l, asked⟩, happening⟩ = none)
    (asks : Entry.asks ⟨⟨l, asked⟩, happening⟩ = false) : Change ⟨⟨l, asked⟩, happening⟩ := by
  obtain ⟨channel, askers, commands⟩ := l.send?_other other
  refine .unheard [] occasion ?_ ?_ ?_ (absurd rfl ·) ?_ ?_ ?_ ?_
  · rw [after, outcome]
    exact channel
  · rw [waiting, after, outcome, asks, if_neg Bool.false_ne_true, askers]
  · rw [after, outcome]
    exact fun ended => commands (channel ▸ ended)
  · rw [completed, effects, outcome]
    rfl
  · rw [reportsEnd, effects, outcome]
    rfl
  · rw [effects, outcome]
    nofun
  · rw [effects, outcome]
    rfl

/-- A move changes what it does to the link. -/
theorem change_moved (now : Millis) (m : Move) (l' : Link Nat) (effects : List (Effect Nat))
    (possible : l.perform? now m = some (l', effects)) (moved : Link.Moved l now m l' effects) :
    Change ⟨⟨l, asked⟩, .move now m⟩ := by
  let e : Entry := ⟨⟨l, asked⟩, .move now m⟩
  have askers : e.waiting = l.askers := List.append_nil _
  have outcome : e.outcome = (l', effects) := congrArg (·.getD (l, [])) possible
  have result : e.after = ⟨l', asked⟩ := congrArg (Holding.mk ·.1 asked) outcome
  have shown : e.effects = effects := congrArg (·.2) outcome
  cases moved with
  | heard o left occasion channel waits commands askers' completed reported events written =>
      obtain ⟨before, live, now_⟩ := Link.occasion?_eq occasion
      refine .heard o left occasion before live now_ ?_ (askers.trans waits) ?_ ?_ ?_ ?_
        (shown ▸ events) (shown ▸ written)
      · change e.after.link.channel = _
        rw [result, channel]
      · change e.after.link.channel.ended = true → e.after.link.commands = []
        rw [result]
        exact commands
      · change e.after.link.askers = _
        rw [result, askers']
      · change e.effects.filterMap _ = _
        rw [shown, completed]
      · change e.effects.any _ = _
        rw [shown, reported]
  | unheard occasion channel commands completed silent complaints =>
      refine .unheard [] occasion ?_ ?_ ?_ (absurd rfl ·) ?_ ?_ ?_ ?_
      · change e.after.link.channel = _
        rw [result, channel]
      · change e.waiting = e.after.link.askers ++ []
        rw [askers, result, Link.askers, Link.askers, commands, List.append_nil]
      · change _ → e.after.link.commands = _
        rw [result]
        exact fun _ => commands
      · change e.effects.filterMap _ = _
        rw [shown, completed]
        rfl
      · change e.effects.any _ = _
        rw [shown, silent]
      · intro event mem
        obtain ⟨effect, here, report⟩ := List.mem_filterMap.mp mem
        obtain ⟨text, rfl⟩ := complaints effect (shown ▸ here)
        exact ⟨text, (Option.some.inj report).symm⟩
      · apply List.filterMap_eq_nil_iff.mpr
        intro effect mem
        obtain ⟨text, rfl⟩ := complaints effect (shown ▸ mem)
        rfl

end

theorem change (e : Entry) : Change e := by
  obtain ⟨⟨l, asked⟩, happening⟩ := e
  cases happening with
  | ask type data timeout => exact change_ask l asked type data timeout
  | tell type data reply => exact change_send l asked _ (.send type data reply) rfl rfl rfl rfl
  | stop => exact change_send l asked _ .stop rfl rfl rfl rfl
  | outside line complaints fate holders =>
      exact .unheard [] rfl rfl rfl (fun _ => rfl) (absurd rfl ·) rfl rfl nofun rfl
  | move now m =>
      obtain ⟨impossible, occasion⟩ | ⟨l', effects, possible, moved⟩ := l.perform?_moved now m
      · have outcome : Entry.outcome ⟨⟨l, asked⟩, .move now m⟩ = (l, []) :=
          congrArg (·.getD (l, [])) impossible
        refine .unheard [] occasion ?_ ?_ ?_ (absurd rfl ·) ?_ ?_ ?_ ?_ <;>
          simp [after, waiting, asks, completed, Entry.effects, reportsEnd, outcome]
      · exact change_moved l asked now m l' effects possible moved

/-! ## The requests -/

theorem map_closed (askers : List Nat) :
    (askers.map fun a => (a, (.error .closed : Except RequestError Json))).map (·.1) = askers := by
  rw [List.map_map]
  exact List.map_id _

section

variable (e : Entry)

theorem lastId_le : e.before.link.channel.lastId ≤ e.after.link.channel.lastId := by
  cases e.change with
  | heard o left _ before _ _ channel =>
      rw [channel, ← before]
      exact o.lastId_le
  | unheard _ _ channel => rw [channel]

/-- A request that is accepted was waiting for that, and carries the next number. -/
theorem accepted?_eq {p : Pending Nat} (h : e.accepted? = some p) :
    p.asker ∈ e.waiting ∧ p.id = toString (e.before.link.channel.lastId + 1) ∧
      e.after.link.channel.lastId = e.before.link.channel.lastId + 1 ∧
      e.before.link.channel.closed = false ∧ e.completed = [] := by
  cases e.change with
  | unheard _ occasion => rw [accepted?, occasion] at h; cases h
  | heard o left occasion before live _ channel waiting _ _ completed =>
      rw [accepted?, occasion] at h
      obtain ⟨asked, id, open_, enqueued⟩ := o.accepted?_eq h
      obtain ⟨calm, none_⟩ := o.calm_of_accepted live h
      refine ⟨by simp [waiting, asked], by rw [← before, id], ?_, by rw [← before, open_], ?_⟩
      · rw [channel, o.queueStep.lastId, enqueued, live, before]
        rfl
      · rw [completed, none_, calm.ended]
        rfl

theorem closed_of_closed (closed : e.before.link.channel.closed = true) :
    e.after.link.channel.closed = true := by
  cases e.change with
  | heard o _ _ before live _ channel =>
      rw [channel]
      exact o.closed_of_closed live (before ▸ closed)
  | unheard _ _ channel => exact channel ▸ closed

theorem closed_of_reported (reported : e.reportsEnd = true) :
    e.after.link.channel.closed = true := by
  cases e.change with
  | heard o _ _ before live _ channel _ _ _ _ reported' =>
      rw [channel]
      exact o.closed_of_reported live (reported'.symm.trans reported)
  | unheard _ _ _ _ _ _ _ silent => rw [silent] at reported; cases reported

theorem closed_of_ended
    (before : e.before.link.channel.ended = true →
      e.before.link.channel.closed = true ∧ e.before.link.commands = [])
    (ended : e.after.link.channel.ended = true) :
    e.after.link.channel.closed = true ∧ e.after.link.commands = [] := by
  cases e.change with
  | heard o _ _ _ live _ channel _ commands =>
      refine ⟨?_, commands ended⟩
      rw [channel] at ended ⊢
      exact o.closed_of_ended live ended
  | unheard _ _ channel _ commands =>
      rw [channel, commands ended]
      exact before (channel ▸ ended)

theorem pending_of_closed
    (before : e.before.link.channel.closed = true → e.before.pending = [])
    (closed : e.after.link.channel.closed = true) : e.after.pending = [] := by
  cases e.change with
  | heard o _ _ same live _ channel =>
      rw [channel] at closed
      rw [Holding.pending, channel]
      refine o.pending_of_closed live ?_ closed
      rw [same]
      exact before
  | unheard _ _ channel =>
      rw [Holding.pending, channel]
      exact before (channel ▸ closed)

/-! ### Causes of completions -/

theorem ok_cause {i : Nat} {data : Json} (h : (i, .ok data) ∈ e.completed) :
    ∃ p ∈ e.before.pending, p.asker = i ∧ e.answer? p.id = some data := by
  cases e.change with
  | heard o left occasion same live _ _ _ _ _ completed =>
      have here : (i, .ok data) ∈ o.completed := by
        rw [completed] at h
        cases o.after.ended <;> simpa using h
      obtain ⟨p, waits, asker, answer⟩ := o.ok_cause live here
      rw [same] at waits
      refine ⟨p, waits, asker, ?_⟩
      rw [answer?, occasion]
      exact answer
  | unheard away _ _ _ _ _ completed => simp [completed] at h

theorem timeout_cause {i : Nat} {id : String} {after : Millis}
    (h : (i, .error (.timeout id after)) ∈ e.completed) :
    ∃ p ∈ e.before.pending, p.asker = i ∧ p.id = id ∧
      ∃ d, p.deadline = some d ∧ d.after = after ∧ d.due ≤ e.now := by
  cases e.change with
  | heard o left _ same live now _ _ _ _ completed =>
      have here : (i, .error (.timeout id after)) ∈ o.completed := by
        rw [completed] at h
        cases o.after.ended <;> simpa using h
      rw [Holding.pending, ← same, ← now]
      exact o.timeout_cause live here
  | unheard away _ _ _ _ _ completed => simp [completed] at h

theorem closed_cause {i : Nat}
    (before : e.before.link.channel.ended = true → e.before.link.channel.closed = true)
    (h : (i, .error .closed) ∈ e.completed) :
    e.after.link.channel.closed = true ∨ e.before.link.channel.isRunning = false := by
  cases e.change with
  | heard o left _ same live _ channel _ _ _ completed =>
      rw [channel, ← same]
      cases ended : o.after.ended with
      | true => exact .inl (o.closed_of_ended live ended)
      | false =>
          rw [completed, ended, if_neg (by decide), List.append_nil] at h
          exact o.closed_cause live h
  | unheard away _ channel _ _ ended completed =>
      have some_ : away ≠ [] := by
        rintro rfl
        simp [completed] at h
      exact .inl (channel ▸ before (ended some_))

theorem accepted?_of_asks (asks : e.asks = true) : e.accepted? = none := by
  obtain ⟨before, happening⟩ := e
  cases happening <;> first | rfl | cases asks

/-! ### The requests that wait -/

/-- A request that still waits has not been answered. -/
theorem answer?_of_waiting {p : Pending Nat} (before : p ∈ e.before.pending)
    (after : p ∈ e.after.pending) : e.answer? p.id = none := by
  cases e.change with
  | heard o _ occasion same live _ channel =>
      rw [Holding.pending, channel] at after
      rw [Holding.pending, ← same] at before
      rw [answer?, occasion]
      exact o.answer?_of_waiting live before after
  | unheard _ occasion =>
      rw [answer?, occasion]
      rfl

section

variable (ids : (e.before.pending.map (·.id)).Nodup)
include ids

/-- An answer completes the request that it names. -/
theorem completed_of_answer {p : Pending Nat} (waiting : p ∈ e.before.pending) {data : Json}
    (answer : e.answer? p.id = some data) : (p.asker, .ok data) ∈ e.completed := by
  cases e.change with
  | heard o _ occasion same live _ _ _ _ _ completed =>
      rw [answer?, occasion] at answer
      rw [Holding.pending, ← same] at waiting ids
      rw [completed]
      exact List.mem_append_left _ (o.completed_of_answer live ids waiting answer)
  | unheard _ occasion => rw [answer?, occasion] at answer; cases answer

/-- A request that waited, or was not looked at, is completed, or waits, or is not looked at. -/
theorem askers_perm :
    (e.completed.map (·.1) ++ e.after.pending.map (·.asker) ++ e.after.link.askers).Perm
      (e.before.pending.map (·.asker) ++ e.waiting) := by
  cases e.change with
  | heard o left _ same live _ channel waiting _ askers completed =>
      rw [Holding.pending, ← same] at ids
      rw [Holding.pending, channel, askers, completed, List.map_append, Holding.pending, ← same, waiting]
      have here := o.askers_left_perm live ids left
      cases last : o.after.ended <;> simpa [last, Function.comp_def] using here
  | unheard away _ channel waiting _ _ completed =>
      have left : e.completed.map (·.1) = away := completed ▸ map_closed away
      rw [Holding.pending, Holding.pending, channel, waiting, left, ← Multiset.coe_eq_coe]
      simp only [← Multiset.coe_add]
      abel

theorem pending_eq (distinct : (e.before.pending.map (·.asker) ++ e.waiting).Nodup) :
    e.after.pending =
      e.before.pending.filter (fun p => p.asker ∉ e.completed.map (·.1)) ++
        e.accepted?.toList := by
  obtain ⟨askers, -, apart⟩ := List.nodup_append.mp distinct
  cases e.change with
  | heard o left occasion same live _ channel waiting _ _ completed =>
      -- The requests in `left` fail only with the channel, and none of them is one that waits.
      rw [waiting] at distinct apart
      rw [Holding.pending, ← same] at ids distinct apart askers
      have here := o.pending_eq live ids (List.nodup_append_comm.mp
        ((List.append_assoc _ _ _ ▸ distinct).sublist (List.sublist_append_left _ _)))
      rw [Holding.pending, channel, here, Holding.pending, ← same, accepted?, occasion,
        Option.bind_some]
      congr 1
      refine List.filter_congr (fun p mem => ?_)
      have other : p.asker ∉ left := fun mem' =>
        apart _ (List.mem_map_of_mem mem) _ (List.mem_append_right _ mem') rfl
      rw [completed, List.map_append]
      cases o.after.ended <;> simp [other]
  | unheard away occasion channel waiting _ _ completed =>
      have left : e.completed.map (·.1) = away := completed ▸ map_closed away
      rw [accepted?, occasion, left, Holding.pending, channel, Option.bind_none, Option.toList_none,
        List.append_nil, eq_comm, Holding.pending, List.filter_eq_self]
      intro p mem
      have other : p.asker ∉ away := fun mem' =>
        apart _ (List.mem_map_of_mem mem) _ (waiting ▸ List.mem_append_right _ mem') rfl
      simpa using other

end

end

end Entry

end DebugAdapter.Channel
