import DebugAdapter.Proofs.Channel.Settlement
/-!
# Where the interpreter's messages go

Each message goes to exactly one place. A keep-alive request is answered, whatever it replies to;
another message completes the request that it names, even if it looks like the answer to a
keep-alive request; such an answer that names no request is dropped; everything else is reported as
it is.
-/

namespace DebugAdapter.Channel

open Interpreter (Message)

variable {ρ : Type}

/-- The message that is reported. -/
def Event.message? : Event → Option Message
  | .message m => some m
  | _ => none

namespace Occasion

/-- The message that the channel looks at. -/
def received? (o : Occasion ρ) : Option Message :=
  if o.before.ended then none
  else
    match o.input with
    | .frame (.ok m) => some m
    | _ => none

/-- The messages that the step reports. -/
def messages (o : Occasion ρ) : List Message := o.events.filterMap Event.message?

/-- The message that has nowhere else to go: it neither asks whether the adapter is alive nor
answers anything. -/
def unclaimed? (o : Occasion ρ) : Option Message :=
  o.received?.filter fun m =>
    m.type != Message.pingRequest && m.type != Message.pingResponse &&
      !o.before.requests.pending.any fun p => m.reply == some p.id

/-- The step answers a keep-alive request with `pong`. -/
structure Pinged (o : Occasion ρ) (m pong : Message) : Prop where
  type : pong.type = Message.pingResponse
  reply : pong.reply = some m.id
  number : pong.id = toString (o.before.lastId + 1)
  /-- No other message is queued. -/
  one : o.after.lastId = o.before.lastId + 1
  requests : o.after.requests = o.before.requests
  /-- The queue is written now, in order, the answer last. -/
  running : o.before.isRunning = true → o.after.outbox = [] ∧
    o.effects =
      (o.before.outbox ++ [pong]).map (writeEffect o.before.config o.env.accepts)
  idle : o.before.isRunning = false → o.after.outbox = o.before.outbox ++ [pong] ∧ o.effects = []
  /-- Only what cannot be written is reported. -/
  events : o.events = o.dropped.map fun d => .failed d.2.message
  completed : o.completed = []

/-- The step completes the request `p`, and no other, with what the message brings. -/
structure Replied (o : Occasion ρ) (m : Message) (p : Pending ρ) : Prop where
  effects : o.effects = [.complete p.asker (.ok m.data)]
  pending : ∃ front back, o.before.requests.pending = front ++ p :: back ∧
    o.after.requests.pending = front ++ back
  rest : o.after = { o.before with requests := o.after.requests }

/-- What becomes of a message. -/
structure Routed (o : Occasion ρ) (m : Message) : Prop where
  ping : m.type = Message.pingRequest → ∃ pong, o.Pinged m pong
  reply : m.type ≠ Message.pingRequest → ∀ p ∈ o.before.requests.pending, m.reply = some p.id →
    o.Replied m p
  stray : m.type = Message.pingResponse →
    (∀ p ∈ o.before.requests.pending, m.reply ≠ some p.id) → o.after = o.before ∧ o.effects = []
  report : m.type ≠ Message.pingRequest → m.type ≠ Message.pingResponse →
    (∀ p ∈ o.before.requests.pending, m.reply ≠ some p.id) →
    o.after = o.before ∧ o.effects = [.emit (.message m)]

/-! ## One message -/

/-- Without the element that has a key, a list without repeated keys is as it was. -/
theorem filter_other {front back : List (Pending ρ)} {p : Pending ρ}
    (distinct : ((front ++ p :: back).map (·.id)).Nodup) :
    (front ++ p :: back).filter (·.id != p.id) = front ++ back := by
  rw [List.map_append, List.map_cons] at distinct
  have apart := List.nodup_middle.mp distinct
  rw [← List.map_append, List.nodup_cons] at apart
  have others : ∀ q ∈ front ++ back, (q.id != p.id) = true := fun q mem =>
    bne_iff_ne.mpr fun same => apart.1 (List.mem_map.mpr ⟨q, mem, same⟩)
  rw [List.filter_append, List.filter_cons_of_neg (by simp), ← List.filter_append]
  exact List.filter_eq_self.mpr others

/-- The request that a message names is the one that it answers. -/
theorem answered?_of_mem {c : Channel ρ} (numbered : Numbered c) {m : Message} {p : Pending ρ}
    (waits : p ∈ c.requests.pending) (reply : m.reply = some p.id) : c.answered? m = some p := by
  rw [answered?, reply, Option.bind_some, Requests.find?]
  cases found : c.requests.pending.find? (·.id == p.id) with
  | none => exact absurd (beq_self_eq_true p.id) (List.find?_eq_none.mp found p waits)
  | some q =>
      have same : q.id = p.id := beq_iff_eq.mp (List.find?_some found :)
      rw [List.inj_on_of_nodup_map numbered.distinct (List.mem_of_find?_eq_some found) waits same]

theorem answered?_of_unnamed {c : Channel ρ} {m : Message}
    (unnamed : ∀ p ∈ c.requests.pending, m.reply ≠ some p.id) : c.answered? m = none := by
  rw [answered?, Option.bind_eq_none_iff]
  intro id reply
  apply List.find?_eq_none.mpr
  intro p mem same
  apply unnamed p mem
  rw [reply, beq_iff_eq.mp same]

section

variable (o : Occasion ρ) {m : Message} (received : o.received? = some m)
include received

theorem received?_eq : o.before.ended = false ∧ o.input = .frame (.ok m) ∧
    o.before.step o.env o.input = o.before.dispatch o.env m := by
  unfold received? at received
  split at received
  · cases received
  · rename_i live
    split at received
    · rename_i m' input
      cases received
      rw [Bool.not_eq_true] at live
      exact ⟨live, input, by simp [Channel.step, live, input]⟩
    · cases received

theorem pinged (type : m.type = Message.pingRequest) :
    o.Pinged m (o.numbered Message.pingResponse (.string (toString o.env.now)) (some m.id)) := by
  obtain ⟨live, input, dispatched⟩ := o.received?_eq received
  have ping : m.isPing = true := beq_iff_eq.mpr type
  let c : Channel ρ := (o.before.enqueue o.env.now Message.pingResponse
    (.string (toString o.env.now)) (some m.id)).2
  have flushed : o.before.step o.env o.input = c.flush o.env := by
    rw [dispatched, dispatch, if_pos ping]
    rfl
  obtain ⟨completed, -⟩ := c.flush_shows o.env
  have attempted : o.attempted = if o.before.isRunning then c.outbox else [] := by
    simp [attempted, flushes, enqueued, live, input, ping, c, enqueue, numbered]
  cases running : o.before.isRunning with
  | true =>
      have running' : c.isRunning = true := running
      have flushed' := flushed
      rw [c.flush_running o.env running'] at flushed
      rw [running, if_pos rfl] at attempted
      have effects : o.effects = o.attempted.map (writeEffect o.before.config o.env.accepts) := by
        rw [attempted]
        exact congrArg (·.2) flushed
      refine ⟨rfl, rfl, rfl, congrArg (·.1.lastId) flushed, congrArg (·.1.requests) flushed, ?_,
        (absurd · (by simp [running])), ?_, ?_⟩
      · intro _
        exact ⟨congrArg (·.1.outbox) flushed, congrArg (·.2) flushed⟩
      · rw [events, effects, events_writeEffect]
        rfl
      · rw [Occasion.completed, Occasion.effects, flushed']
        exact completed
  | false =>
      have idle : c.isRunning = false := running
      rw [c.flush_idle o.env idle] at flushed
      rw [running, if_neg Bool.false_ne_true] at attempted
      have effects : o.effects = [] := congrArg (·.2) flushed
      refine ⟨rfl, rfl, rfl, congrArg (·.1.lastId) flushed, congrArg (·.1.requests) flushed,
        (absurd · (by simp [running])), ?_, ?_, ?_⟩
      · intro _
        exact ⟨congrArg (·.1.outbox) flushed, effects⟩
      · rw [events, effects, dropped, attempted]
        rfl
      · rw [Occasion.completed, effects]
        rfl

theorem replied (numbered : Numbered o.before) (type : m.type ≠ Message.pingRequest)
    {p : Pending ρ} (waits : p ∈ o.before.requests.pending) (reply : m.reply = some p.id) :
    o.Replied m p := by
  obtain ⟨-, -, dispatched⟩ := o.received?_eq received
  have other : m.isPing = false := beq_eq_false_iff_ne.mpr type
  have step : o.before.step o.env o.input =
      ({ o.before with requests := o.before.requests.erase p.id },
        [.complete p.asker (.ok m.data)]) := by
    simp [dispatched, dispatch, other, answered?_of_mem numbered waits reply]
  refine ⟨congrArg (·.2) step, ?_, ?_⟩
  · obtain ⟨front, back, parts⟩ := List.append_of_mem waits
    refine ⟨front, back, parts, (congrArg (·.1.requests.pending) step).trans ?_⟩
    have distinct := numbered.distinct
    rw [parts] at distinct
    change o.before.requests.pending.filter _ = _
    rw [parts]
    exact filter_other distinct
  · rw [after, step]

theorem routed (numbered : Numbered o.before) : o.Routed m where
  ping type := ⟨_, o.pinged received type⟩
  reply type _ waits names := o.replied received numbered type waits names
  stray type unnamed := by
    obtain ⟨-, -, dispatched⟩ := o.received?_eq received
    have other : m.isPing = false := beq_eq_false_iff_ne.mpr (type ▸ by decide)
    have step : o.before.step o.env o.input = (o.before, []) := by
      simp [dispatched, dispatch, other, type, answered?_of_unnamed unnamed]
    exact ⟨congrArg (·.1) step, congrArg (·.2) step⟩
  report ping pong unnamed := by
    obtain ⟨-, -, dispatched⟩ := o.received?_eq received
    have other : m.isPing = false := beq_eq_false_iff_ne.mpr ping
    have step : o.before.step o.env o.input = (o.before, [.emit (.message m)]) := by
      simp [dispatched, dispatch, other, pong, answered?_of_unnamed unnamed]
    exact ⟨congrArg (·.1) step, congrArg (·.2) step⟩

end

/-- What looks like the answer to a keep-alive request completes the request that it names. -/
example :
    (dispatch { config := {}, requests := { pending := [⟨"1", (), none⟩] } } {}
      ⟨Message.pingResponse, "7", some "1", .null⟩).2 = [.complete () (.ok .null)] := by
  rfl

/-! ## The messages that are reported -/

theorem messages_of_unreceived (o : Occasion ρ) (none_ : o.received? = none) : o.messages = [] := by
  obtain ⟨c, env, input⟩ := o
  cases live : c.ended with
  | true => simp [messages, events, effects, Channel.step, live]
  | false =>
      have flushed (c : Channel ρ) :
          ((c.flush env).2.filterMap Effect.event?).filterMap Event.message? = [] := by
        apply List.filterMap_eq_nil_iff.mpr
        intro e mem
        obtain ⟨text, rfl⟩ := c.flush_events env e mem
        rfl
      have closed (c : Channel ρ) :
          (c.closeIfDone.2.filterMap Effect.event?).filterMap Event.message? = [] := by
        obtain kept | ⟨code, -, -, -, done⟩ := c.closeIfDone_eq
        · rw [kept]
          rfl
        · rw [done, List.filterMap_append, failAll_events]
          rfl
      have stopped : ((c.shutdown env).2.filterMap Effect.event?).filterMap Event.message? = [] := by
        rw [shutdown_events]
        cases c.hasChild <;> cases c.closed <;> rfl
      unfold messages events effects Channel.step
      simp only [live, Bool.false_eq_true, if_false]
      cases input with
      | command command =>
          cases command with
          | send type data reply => rfl
          | request asker type data timeout =>
              cases gone : c.closed || !c.isRunning <;> simp [Channel.command, gone, Effect.event?]
          | stop => exact stopped
      | released => exact stopped
      | frame f =>
          cases f with
          | error bad => rfl
          | ok m => simp [received?, live] at none_
      | endOfOutput => exact closed _
      | readFailed => rfl
      | exit code =>
          simp only [Channel.exit, List.filterMap_cons, Effect.event?, Event.message?, closed]
      | flush => exact flushed c
      | expire =>
          simp [expire, List.filterMap_map, Function.comp_def, Effect.event?]

theorem messages_eq (o : Occasion ρ) (numbered : Numbered o.before) :
    o.messages = o.unclaimed?.toList := by
  cases received : o.received? with
  | none => simp [o.messages_of_unreceived received, unclaimed?, received]
  | some m =>
      have routed := o.routed received numbered
      by_cases ping : m.type = Message.pingRequest
      · obtain ⟨pong, pinged⟩ := routed.ping ping
        have none_ : o.messages = [] := by
          rw [messages, pinged.events, List.filterMap_map]
          exact List.filterMap_eq_nil_iff.mpr fun _ _ => rfl
        simp [none_, unclaimed?, received, Option.filter, ping]
      · by_cases named : ∃ p ∈ o.before.requests.pending, m.reply = some p.id
        · obtain ⟨p, waits, names⟩ := named
          have any : (o.before.requests.pending.any fun p => m.reply == some p.id) = true :=
            List.any_eq_true.mpr ⟨p, waits, beq_iff_eq.mpr names⟩
          rw [messages, events, (routed.reply ping p waits names).effects, unclaimed?, received]
          simp [Option.filter, any, Effect.event?]
        · have unnamed : ∀ p ∈ o.before.requests.pending, m.reply ≠ some p.id :=
            fun p waits names => named ⟨p, waits, names⟩
          have any : (o.before.requests.pending.any fun p => m.reply == some p.id) = false := by
            simpa using unnamed
          by_cases stray : m.type = Message.pingResponse
          · rw [messages, events, (routed.stray stray unnamed).2, unclaimed?, received]
            simp [Option.filter, stray]
          · rw [messages, events, (routed.report ping stray unnamed).2, unclaimed?, received]
            simp [Option.filter, ping, stray, any, Effect.event?, Event.message?]

end Occasion

/-! ## All messages -/

/-- Where the messages of a run went. -/
structure Routes (t : Trace (Channel ρ) (Occasion ρ)) : Prop where
  routed : ∀ o ∈ t.entries, ∀ m, o.received? = some m → o.Routed m
  /-- What is reported is what has nowhere else to go, in the order in which it came. -/
  messages : t.entries.flatMap Occasion.messages = t.entries.filterMap Occasion.unclaimed?
  /-- A keep-alive request leads to one answer, which is tried at once and never again. -/
  answers : ∀ o ∈ t.entries, ∀ m, o.received? = some m → m.type = Message.pingRequest →
    o.before.isRunning = true → ∃ pong, o.Pinged m pong ∧
      o.attempted = o.before.outbox ++ [pong] ∧
      (t.entries.flatMap Occasion.attempted).filter (·.id == pong.id) = [pong]
  /-- What is written has been tried. -/
  written : ∀ o ∈ t.entries, o.written = o.attempted.filter fun m => (o.obstacle? m).isNone

/-- What each step keeps. -/
structure Handed (t : Trace (Channel ρ) (Occasion ρ)) : Prop where
  kept : Kept t
  ordered : (t.entries.flatMap Occasion.attempted ++ t.state.outbox).Sublist
    (t.entries.flatMap Occasion.enqueued)
  numbered : Numbered t.state
  past : ∀ o ∈ t.entries, Numbered o.before

theorem Handed.next {t : Trace (Channel ρ) (Occasion ρ)} (handed : Handed t)
    (i : Surroundings × Input ρ) : Handed (t.next advance i) where
  kept := next_kept handed.kept i
  ordered := by
    let o : Occasion ρ := ⟨t.state, i.1, i.2⟩
    rw [Trace.flatMap_next, Trace.flatMap_next, List.append_assoc]
    change (_ ++ (o.attempted ++ o.after.outbox)).Sublist (_ ++ o.enqueued)
    apply (o.attempted_sublist.append_left _).trans
    rw [← List.append_assoc]
    exact handed.ordered.append_right _
  numbered := Numbered.after (o := ⟨t.state, i.1, i.2⟩) handed.numbered
  past := by
    intro o mem
    cases List.mem_append.mp mem with
    | inl past => exact handed.past o past
    | inr now => exact List.mem_singleton.mp now ▸ handed.numbered

theorem routes_of_handed {t : Trace (Channel ρ) (Occasion ρ)} (handed : Handed t) : Routes t where
  routed o mem _ received := o.routed received (handed.past o mem)
  messages := by
    rw [List.filterMap_eq_flatMap_toList]
    apply List.flatMap_congr
    intro o mem
    exact o.messages_eq (handed.past o mem)
  answers := by
    intro o mem m received type running
    have pinged := o.pinged received type
    obtain ⟨live, input, -⟩ := o.received?_eq received
    have ping : m.isPing = true := beq_iff_eq.mpr type
    have attempted : o.attempted = o.before.outbox ++
        [o.numbered Message.pingResponse (.string (toString o.env.now)) (some m.id)] := by
      simp [Occasion.attempted, Occasion.flushes, Occasion.enqueued, live, input, ping, running]
    refine ⟨_, pinged, attempted, ?_⟩
    have among := (List.sublist_append_left _ _).trans handed.ordered
    apply Occasion.filter_key ((accounts_of_kept handed.kept).distinct.sublist (among.map _))
    apply List.mem_flatMap.mpr ⟨o, mem, _⟩
    rw [attempted]
    exact List.mem_concat_self
  written o _ := o.written_eq

/-- Whatever comes in, in whatever order: each message goes to one place. -/
theorem run_routes (config : Config) (inputs : List (Surroundings × Input ρ)) :
    Routes (Trace.run advance (Channel.overPipe config) inputs) ∧
      Routes (Trace.run advance (Channel.overProcess config) inputs) := by
  have routes (c : Channel ρ) (start : Handed { state := c }) :
      Routes (Trace.run advance c inputs) :=
    routes_of_handed (Trace.run_invariant (P := Handed) advance start
      (fun _ i handed => handed.next i) inputs)
  constructor
  · exact routes _ ⟨kept_start _ rfl rfl rfl, .slnil, .of_pending_nil rfl, by simp⟩
  · exact routes _ ⟨kept_start _ rfl rfl rfl, .slnil, .of_pending_nil rfl, by simp⟩

end DebugAdapter.Channel
