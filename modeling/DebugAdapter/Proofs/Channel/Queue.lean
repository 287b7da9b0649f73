import DebugAdapter.Proofs.Channel.Occasion
import Mathlib
/-!
# What becomes of a queued message

Each message that a channel queues is written, or cannot be written and is reported, or is given up
when the channel is stopped, or still waits; and while the interpreter is running a time is set at
which it is tried.
-/

namespace DebugAdapter.Channel

open Interpreter (Message)

variable {ρ : Type}

namespace Occasion

/-! ## What a step does to the queue -/

/-- A message with the next number. -/
def numbered (o : Occasion ρ) (type : String) (data : Json) (reply : Option String) : Message :=
  { type, id := toString (o.before.lastId + 1), reply, data }

/-- The message that the step puts into the queue. -/
def enqueued (o : Occasion ρ) : List Message :=
  if o.before.ended then []
  else
    match o.input with
    | .command (.send type data reply) => [o.numbered type data reply]
    | .command (.request _ type data _) =>
      if o.before.closed || !o.before.isRunning then [] else [o.numbered type data none]
    | .frame (.ok m) =>
      if m.isPing then
        [o.numbered Message.pingResponse (.string (toString o.env.now)) (some m.id)]
      else []
    | _ => []

/-- Whether the step tries to write what is queued. -/
def flushes (o : Occasion ρ) : Bool :=
  let asked := match o.input with
    | .flush => true
    | .frame (.ok m) => m.isPing
    | _ => false
  asked && (o.before.isRunning && !o.before.ended)

/-- Whether the step stops the channel. -/
def stops (o : Occasion ρ) : Bool :=
  let asked := match o.input with
    | .command .stop | .released => true
    | _ => false
  asked && !o.before.ended

/-- The messages that the step tries to write. -/
def attempted (o : Occasion ρ) : List Message :=
  if o.flushes then o.before.outbox ++ o.enqueued else []

/-- Why a message cannot be written, if it cannot. -/
def obstacle? (o : Occasion ρ) (m : Message) : Option Framing.FrameError :=
  match o.before.config.delimiting.encode m with
  | .error e => some e
  | .ok _ => if o.env.accepts m then none else some .io

/-- The messages that are lost because they cannot be written. -/
def dropped (o : Occasion ρ) : List (Message × Framing.FrameError) :=
  o.attempted.filterMap fun m => (o.obstacle? m).map (m, ·)

/-- The messages that are given up because the channel is stopped. -/
def discarded (o : Occasion ρ) : List Message := if o.stops then o.before.outbox else []

/-- The error in the interpreter's output that the step reports. -/
def readFailures (o : Occasion ρ) : List String :=
  if o.before.ended then []
  else
    match o.input with
    | .readFailed => [Framing.FrameError.io.message]
    | _ => []

/-- When the queue is to be written, once the step has put its message there. -/
def dueThen (o : Occasion ρ) : Option Millis :=
  if o.enqueued.isEmpty then o.before.flushDue
  else o.before.flushDue.or (some (o.env.now + o.before.config.writeDelay))

/-- What becomes of the queue once the step has put its message there. -/
inductive Handling (o : Occasion ρ) : Prop where
  | kept (flushes : o.flushes = false) (stops : o.stops = false)
      (outbox : o.after.outbox = o.before.outbox ++ o.enqueued) (due : o.after.flushDue = o.dueThen)
      (written : o.written = []) (failures : o.failures = o.readFailures)
  | tried (flushes : o.flushes = true) (stops : o.stops = false)
      (outbox : o.after.outbox = []) (due : o.after.flushDue = none)
      (effects : o.effects = o.attempted.map (writeEffect o.before.config o.env.accepts))
      (failures : o.readFailures = [])
  | held (flushes : o.flushes = false) (stops : o.stops = false)
      (outbox : o.after.outbox = o.before.outbox ++ o.enqueued) (idle : o.after.isRunning = false)
      (written : o.written = []) (failures : o.failures = o.readFailures)
  | givenUp (flushes : o.flushes = false) (stops : o.stops = true) (enqueued : o.enqueued = [])
      (outbox : o.after.outbox = []) (idle : o.after.isRunning = false)
      (written : o.written = []) (failures : o.failures = o.readFailures)

/-- What a step does to the queue. -/
structure QueueStep (o : Occasion ρ) : Prop where
  lastId : o.after.lastId = o.before.lastId + o.enqueued.length
  config : o.after.config = o.before.config
  running : o.after.isRunning = true → o.before.isRunning = true
  handling : Handling o

/-- A step that leaves the queue alone. -/
theorem queueStep_rest (o : Occasion ρ) (flushes : o.flushes = false) (stops : o.stops = false)
    (enqueued : o.enqueued = []) (lastId : o.after.lastId = o.before.lastId)
    (config : o.after.config = o.before.config)
    (running : o.after.isRunning = true → o.before.isRunning = true)
    (outbox : o.after.outbox = o.before.outbox) (due : o.after.flushDue = o.before.flushDue)
    (written : o.written = []) (failures : o.failures = o.readFailures) : QueueStep o := by
  refine ⟨?_, config, running, .kept flushes stops ?_ ?_ written failures⟩
  · rw [enqueued, lastId]
    rfl
  · rw [enqueued, outbox, List.append_nil]
  · rw [dueThen, enqueued, due]
    rfl

/-- A flush, once the step has put its message into the queue; `c'` is the channel then. -/
theorem queueStep_flush (o : Occasion ρ) (c' : Channel ρ)
    (step : o.before.step o.env o.input = c'.flush o.env) (stops : o.stops = false)
    (flushes : o.flushes = o.before.isRunning)
    (lastId : c'.lastId = o.before.lastId + o.enqueued.length)
    (config : c'.config = o.before.config) (status : c'.isRunning = o.before.isRunning)
    (outbox : c'.outbox = o.before.outbox ++ o.enqueued)
    (failures : o.readFailures = []) : QueueStep o := by
  cases running : o.before.isRunning with
  | true =>
      rw [c'.flush_running o.env (status.trans running)] at step
      refine ⟨(congrArg (·.1.lastId) step).trans lastId, (congrArg (·.1.config) step).trans config,
        fun _ => running, .tried (flushes.trans running) stops (congrArg (·.1.outbox) step)
          (congrArg (·.1.flushDue) step) ?_ failures⟩
      rw [attempted, flushes, running, if_pos rfl, ← outbox, ← config]
      exact congrArg (·.2) step
  | false =>
      rw [c'.flush_idle o.env (status.trans running)] at step
      have idle : o.after.isRunning = false :=
        (congrArg (·.1.isRunning) step).trans (status.trans running)
      refine ⟨(congrArg (·.1.lastId) step).trans lastId, (congrArg (·.1.config) step).trans config,
        fun running => absurd running (by simp [idle]),
        .held (flushes.trans running) stops ((congrArg (·.1.outbox) step).trans outbox) idle ?_ ?_⟩
      · exact congrArg (·.2.filterMap Effect.written?) step
      · rw [failures]
        exact congrArg (·.2.filterMap Effect.failure?) step

/-- The end of the output or of the process; `c'` is the channel that knows of it. -/
theorem queueStep_end (o : Occasion ρ) (c' : Channel ρ) (first : List (Effect ρ))
    (step : o.before.step o.env o.input = (c'.closeIfDone.1, first ++ c'.closeIfDone.2))
    (written : first.filterMap Effect.written? = []) (failed : first.filterMap Effect.failure? = [])
    (flushes : o.flushes = false) (stops : o.stops = false) (enqueued : o.enqueued = [])
    (lastId : c'.lastId = o.before.lastId) (config : c'.config = o.before.config)
    (running : c'.isRunning = true → o.before.isRunning = true)
    (outbox : c'.outbox = o.before.outbox) (due : c'.flushDue = o.before.flushDue)
    (failures : o.readFailures = []) : QueueStep o := by
  obtain ⟨written', failed'⟩ := c'.closeIfDone_shows
  obtain ⟨outbox', lastId', due', config', status', -⟩ := c'.closeIfDone_queue
  have state : o.after = c'.closeIfDone.1 := congrArg (·.1) step
  refine queueStep_rest o flushes stops enqueued ?_ ?_ ?_ ?_ ?_ ?_ ?_
  · rw [state, lastId', lastId]
  · rw [state, config', config]
  · rw [state, isRunning, status']
    exact running
  · rw [state, outbox', outbox]
  · rw [state, due', due]
  · rw [Occasion.written, effects, step, List.filterMap_append, written, written']
    rfl
  · rw [Occasion.failures, effects, step, List.filterMap_append, failed, failed', failures]
    rfl

theorem queueStep_stop (o : Occasion ρ) (step : o.before.step o.env o.input = o.before.shutdown o.env)
    (flushes : o.flushes = false) (stops : o.stops = true) (enqueued : o.enqueued = [])
    (failures : o.readFailures = []) : QueueStep o := by
  obtain ⟨written, failed, -⟩ := o.before.shutdown_shows o.env
  have state : o.after = _ := congrArg (·.1) (step.trans (o.before.shutdown_eq o.env))
  have idle : o.after.isRunning = false := by rw [state]; rfl
  refine ⟨?_, ?_, fun running => absurd running (by simp [idle]),
    .givenUp flushes stops enqueued ?_ idle ?_ ?_⟩
  · rw [enqueued, state]
    rfl
  · rw [state]
  · rw [state]
  · rw [Occasion.written, effects, step, written]
  · rw [Occasion.failures, effects, step, failed, failures]

section

variable (c : Channel ρ) (env : Surroundings) (live : c.ended = false)
include live

theorem queueStep_command (command : Command ρ) : QueueStep ⟨c, env, .command command⟩ := by
  cases command with
  | send type data reply =>
      refine ⟨?_, ?_, ?_, .kept ?_ ?_ ?_ ?_ ?_ ?_⟩ <;>
        simp [after, effects, written, failures, step, live, enqueued, flushes, stops,
          readFailures, dueThen, Channel.command, enqueue, numbered, isRunning]
  | request asker type data timeout =>
      cases gone : c.closed || !c.isRunning with
      | true =>
          apply queueStep_rest <;>
            simp [after, effects, written, failures, step, live, enqueued, flushes, stops,
              readFailures, Channel.command, gone, Effect.written?, Effect.failure?]
      | false =>
          have running : c.isRunning = true := by simp_all
          refine ⟨?_, ?_, fun _ => running, .kept ?_ ?_ ?_ ?_ ?_ ?_⟩ <;>
            simp [after, effects, written, failures, step, live, enqueued, flushes, stops,
              readFailures, dueThen, Channel.command, gone, enqueue, numbered]
  | stop =>
      apply queueStep_stop <;> simp [step, live, Channel.command, flushes, stops, enqueued, readFailures]

theorem queueStep_message (m : Message) : QueueStep ⟨c, env, .frame (.ok m)⟩ := by
  cases ping : m.isPing with
  | true =>
      apply queueStep_flush ⟨c, env, .frame (.ok m)⟩
          (c.enqueue env.now Message.pingResponse (.string (toString env.now)) (some m.id)).2 <;>
        simp [step, live, dispatch, ping, pong, stops, flushes, enqueued, enqueue, numbered,
          readFailures, isRunning]
  | false =>
      cases answers : c.answered? m with
      | some p =>
          apply queueStep_rest <;>
            simp [after, effects, written, failures, step, live, dispatch, ping, answers, enqueued,
              flushes, stops, readFailures, Effect.written?, Effect.failure?, isRunning]
      | none =>
          cases stray : m.type == Message.pingResponse <;> apply queueStep_rest <;>
            simp [after, effects, written, failures, step, live, dispatch, ping, answers, stray,
              enqueued, flushes, stops, readFailures, Effect.written?, Effect.failure?]

theorem queueStep_live (input : Input ρ) : QueueStep ⟨c, env, input⟩ := by
  cases input with
  | command command => exact queueStep_command c env live command
  | released =>
      apply queueStep_stop <;> simp [step, live, flushes, stops, enqueued, readFailures]
  | frame f =>
      cases f with
      | error bad =>
          apply queueStep_rest <;>
            simp [after, effects, written, failures, step, live, enqueued, flushes, stops,
              readFailures, Effect.written?, Effect.failure?]
      | ok m => exact queueStep_message c env live m
  | endOfOutput =>
      apply queueStep_end ⟨c, env, .endOfOutput⟩ { c with
          readerOpen := false
          status := if c.hasChild then c.status else .exited none } [] <;>
        simp [step, live, endOfOutput, stops, flushes, enqueued, readFailures, isRunning]
      cases c.hasChild <;> simp
  | readFailed =>
      apply queueStep_rest <;>
        simp [after, effects, written, failures, step, live, enqueued, flushes, stops,
          readFailures, Effect.written?, Effect.failure?]
  | exit code =>
      apply queueStep_end ⟨c, env, .exit code⟩ { c with
          hasChild := false
          exitCode := some code
          status := if c.status == Status.killed then .killed else .exited code }
          [.emit (.exited code)] <;>
        simp [step, live, Channel.exit, stops, flushes, enqueued, readFailures, Effect.written?,
          Effect.failure?, isRunning]
      cases c.status <;> simp
  | flush =>
      apply queueStep_flush ⟨c, env, .flush⟩ c <;>
        simp [step, live, stops, flushes, enqueued, readFailures]
  | expire =>
      apply queueStep_rest <;>
        simp [after, effects, written, failures, step, live, expire, enqueued, flushes, stops,
          readFailures, Effect.written?, Effect.failure?, isRunning]

end

theorem queueStep (o : Occasion ρ) : QueueStep o := by
  obtain ⟨c, env, input⟩ := o
  cases live : c.ended with
  | true =>
      apply queueStep_rest <;>
        simp [after, effects, written, failures, step, live, enqueued, flushes, stops, readFailures]
  | false => exact queueStep_live c env live input

/-! ## The places of a message -/

theorem writeEffect_eq (o : Occasion ρ) (m : Message) :
    writeEffect (ρ := ρ) o.before.config o.env.accepts m =
      match o.obstacle? m with
      | none => .write m
      | some e => .emit (.failed e.message) := by
  unfold writeEffect obstacle?
  cases o.before.config.delimiting.encode m with
  | error e => rfl
  | ok bs => cases o.env.accepts m <;> rfl

section

variable (o : Occasion ρ) (ms : List Message)

theorem written_writeEffect :
    (ms.map (writeEffect (ρ := ρ) o.before.config o.env.accepts)).filterMap Effect.written? =
      ms.filter fun m => (o.obstacle? m).isNone := by
  induction ms with
  | nil => rfl
  | cons m ms ih =>
      rw [List.map_cons, writeEffect_eq]
      cases free : o.obstacle? m <;>
        simp [free, Effect.written?, List.filterMap_cons, ih]

theorem failures_writeEffect :
    (ms.map (writeEffect (ρ := ρ) o.before.config o.env.accepts)).filterMap Effect.failure? =
      (ms.filterMap fun m => (o.obstacle? m).map (m, ·)).map (·.2.message) := by
  induction ms with
  | nil => rfl
  | cons m ms ih =>
      rw [List.map_cons, writeEffect_eq]
      cases free : o.obstacle? m <;>
        simp [free, Effect.failure?, List.filterMap_cons, ih]

theorem events_writeEffect :
    (ms.map (writeEffect (ρ := ρ) o.before.config o.env.accepts)).filterMap Effect.event? =
      (ms.filterMap fun m => (o.obstacle? m).map (m, ·)).map fun d => .failed d.2.message := by
  induction ms with
  | nil => rfl
  | cons m ms ih =>
      rw [List.map_cons, writeEffect_eq]
      cases free : o.obstacle? m <;> simp [free, Effect.event?, List.filterMap_cons, ih]

theorem perm_obstacle :
    ((ms.filter fun m => (o.obstacle? m).isNone) ++
      (ms.filterMap fun m => (o.obstacle? m).map (m, ·)).map (·.1)).Perm ms := by
  induction ms with
  | nil => exact .nil
  | cons m ms ih =>
      cases free : o.obstacle? m with
      | none => simpa [free, List.filterMap_cons] using ih
      | some e =>
          simp only [List.filter_cons, free, Option.isNone_some, Bool.false_eq_true, if_false,
            List.filterMap_cons, Option.map_some, List.map_cons]
          exact List.perm_middle.trans (ih.cons m)

end

variable (o : Occasion ρ)

/-- What was queued or is put into the queue is written, dropped, given up or still there. -/
theorem places_perm :
    (o.written ++ o.dropped.map (·.1) ++ o.discarded ++ o.after.outbox).Perm
      (o.before.outbox ++ o.enqueued) := by
  cases o.queueStep.handling with
  | kept flushes stops outbox _ written _ | held flushes stops outbox _ written _ =>
      simp [written, dropped, attempted, flushes, discarded, stops, outbox]
  | tried flushes stops outbox _ effects _ =>
      rw [Occasion.written, effects, written_writeEffect, dropped, discarded, stops, outbox]
      simpa [attempted, flushes] using o.perm_obstacle (o.before.outbox ++ o.enqueued)
  | givenUp flushes stops enqueued outbox _ written _ =>
      simp [written, dropped, attempted, flushes, discarded, stops, outbox, enqueued]

/-- What is written and what stays is in the order of the queue. -/
theorem written_sublist :
    (o.written ++ o.after.outbox).Sublist (o.before.outbox ++ o.enqueued) := by
  cases o.queueStep.handling with
  | kept _ _ outbox _ written _ | held _ _ outbox _ written _ => simp [written, outbox]
  | tried flushes _ outbox _ effects _ =>
      rw [Occasion.written, effects, written_writeEffect, outbox, List.append_nil, attempted,
        flushes, if_pos rfl]
      exact List.filter_sublist
  | givenUp _ _ _ outbox _ written _ => simp [written, outbox]

/-- What is tried and what stays is in the order of the queue. -/
theorem attempted_sublist :
    (o.attempted ++ o.after.outbox).Sublist (o.before.outbox ++ o.enqueued) := by
  cases o.queueStep.handling with
  | kept flushes _ outbox | held flushes _ outbox | givenUp flushes _ _ outbox =>
      simp [attempted, flushes, outbox]
  | tried flushes _ outbox => simp [attempted, flushes, outbox]

/-- What is written has been tried. -/
theorem written_eq : o.written = o.attempted.filter fun m => (o.obstacle? m).isNone := by
  cases o.queueStep.handling with
  | kept flushes _ _ _ written | held flushes _ _ _ written | givenUp flushes _ _ _ _ written =>
      simp [attempted, flushes, written]
  | tried flushes _ _ _ effects => rw [Occasion.written, effects, written_writeEffect]

/-- Each message that is dropped is reported once. -/
theorem failures_eq : o.failures = o.readFailures ++ o.dropped.map (·.2.message) := by
  cases o.queueStep.handling with
  | kept flushes _ _ _ _ failures | held flushes _ _ _ _ failures =>
      simp [failures, dropped, attempted, flushes]
  | tried _ _ _ _ effects none_ =>
      rw [failures, effects, failures_writeEffect, none_]
      rfl
  | givenUp flushes _ _ _ _ _ failures => simp [failures, dropped, attempted, flushes]

theorem enqueued_cases :
    o.enqueued = [] ∨ ∃ m, o.enqueued = [m] ∧ m.id = toString (o.before.lastId + 1) := by
  unfold enqueued
  repeat' split
  all_goals first | exact .inl rfl | exact .inr ⟨_, rfl, rfl⟩

end Occasion

/-! ## All steps -/

/-- The numbers of a channel's messages and the places where they are. -/
structure Tally (t : Trace (Channel ρ) (Occasion ρ)) : Prop where
  /-- The messages are numbered from one on in the order in which they are queued. -/
  numbered : (t.entries.flatMap Occasion.enqueued).map (·.id) =
    (List.range t.state.lastId).map fun n => toString (n + 1)
  /-- Each is in one place: written, dropped, given up or still in the queue. -/
  placed : (t.entries.flatMap Occasion.written ++
      (t.entries.flatMap Occasion.dropped).map (·.1) ++
      t.entries.flatMap Occasion.discarded ++ t.state.outbox).Perm
    (t.entries.flatMap Occasion.enqueued)
  /-- Each that is dropped is reported once, and no other. -/
  reported : ∀ o ∈ t.entries, o.failures = o.readFailures ++ o.dropped.map (·.2.message)

/-- What each step keeps. -/
structure Kept (t : Trace (Channel ρ) (Occasion ρ)) : Prop extends Tally t where
  ordered : (t.entries.flatMap Occasion.written ++ t.state.outbox).Sublist
    (t.entries.flatMap Occasion.enqueued)
  /-- The first message in the queue sets the time to write. -/
  scheduled : t.state.isRunning = true →
    (t.state.outbox = [] ∧ t.state.flushDue = none) ∨
      ∃ m rest, t.state.outbox = m :: rest ∧ ∃ o ∈ t.entries, m ∈ o.enqueued ∧
        t.state.flushDue = some (o.env.now + t.state.config.writeDelay)

/-- What a channel did with its messages. -/
structure Accounts (t : Trace (Channel ρ) (Occasion ρ)) : Prop extends Tally t where
  distinct : ((t.entries.flatMap Occasion.enqueued).map (·.id)).Nodup
  /-- Messages are written in the order in which they are queued. -/
  ordered : (t.entries.flatMap Occasion.written).Sublist (t.entries.flatMap Occasion.enqueued)
  ascending : ∃ numbers : List Nat, numbers.Pairwise (· < ·) ∧
    (t.entries.flatMap Occasion.written).map (·.id) = numbers.map toString
  /-- While the interpreter is running, the queue is written in time for its first message. -/
  scheduled : t.state.isRunning = true → ∀ m ∈ t.state.outbox.head?,
    ∃ o ∈ t.entries, m ∈ o.enqueued ∧
      ∃ due, t.state.flushDue = some due ∧ due ≤ o.env.now + t.state.config.writeDelay

section

variable {t : Trace (Channel ρ) (Occasion ρ)} (kept : Kept t) (i : Surroundings × Input ρ)
include kept

theorem numbered_next :
    ((t.next advance i).entries.flatMap Occasion.enqueued).map (·.id) =
      (List.range (t.next advance i).state.lastId).map fun n => toString (n + 1) := by
  let o : Occasion ρ := ⟨t.state, i.1, i.2⟩
  have count : (t.next advance i).state.lastId = t.state.lastId + o.enqueued.length :=
    o.queueStep.lastId
  rw [Trace.flatMap_next, count, List.map_append, kept.numbered]
  change _ ++ o.enqueued.map (·.id) = _
  obtain none_ | ⟨m, one, id⟩ := o.enqueued_cases
  · simp [none_]
  · simp only [one, List.length_singleton, List.range_succ, List.map_append, List.map_singleton, id]
    rfl

theorem ordered_next :
    ((t.next advance i).entries.flatMap Occasion.written ++ (t.next advance i).state.outbox).Sublist
      ((t.next advance i).entries.flatMap Occasion.enqueued) := by
  let o : Occasion ρ := ⟨t.state, i.1, i.2⟩
  rw [Trace.flatMap_next, Trace.flatMap_next, List.append_assoc]
  change (_ ++ (o.written ++ o.after.outbox)).Sublist (_ ++ o.enqueued)
  refine (o.written_sublist.append_left _).trans ?_
  rw [← List.append_assoc]
  exact kept.ordered.append_right _

theorem placed_next :
    ((t.next advance i).entries.flatMap Occasion.written ++
        ((t.next advance i).entries.flatMap Occasion.dropped).map (·.1) ++
        (t.next advance i).entries.flatMap Occasion.discarded ++
        (t.next advance i).state.outbox).Perm
      ((t.next advance i).entries.flatMap Occasion.enqueued) := by
  let o : Occasion ρ := ⟨t.state, i.1, i.2⟩
  have places := Multiset.coe_eq_coe.mpr o.places_perm
  have before := Multiset.coe_eq_coe.mpr kept.placed
  simp only [Trace.flatMap_next, List.map_append]
  change (_ ++ o.written ++ (_ ++ o.dropped.map (·.1)) ++ (_ ++ o.discarded) ++ o.after.outbox).Perm
    (_ ++ o.enqueued)
  rw [← Multiset.coe_eq_coe]
  simp only [← Multiset.coe_add] at places before ⊢
  have here : (t.state.outbox : Multiset Message) + o.enqueued =
      o.written + o.dropped.map (·.1) + o.discarded + o.after.outbox := places.symm
  rw [← before, add_assoc _ (t.state.outbox : Multiset Message), here]
  abel

theorem scheduled_next : (t.next advance i).state.isRunning = true →
    ((t.next advance i).state.outbox = [] ∧ (t.next advance i).state.flushDue = none) ∨
      ∃ m rest, (t.next advance i).state.outbox = m :: rest ∧
        ∃ o ∈ (t.next advance i).entries, m ∈ o.enqueued ∧ (t.next advance i).state.flushDue =
          some (o.env.now + (t.next advance i).state.config.writeDelay) := by
  let o : Occasion ρ := ⟨t.state, i.1, i.2⟩
  change o.after.isRunning = true → (o.after.outbox = [] ∧ o.after.flushDue = none) ∨
    ∃ m rest, o.after.outbox = m :: rest ∧ ∃ o' ∈ t.entries ++ [o], m ∈ o'.enqueued ∧
      o.after.flushDue = some (o'.env.now + o.after.config.writeDelay)
  intro running
  rw [o.queueStep.config]
  -- Where the queue is kept, its first message is the old one, or the new one if it was empty.
  cases o.queueStep.handling with
  | kept _ _ outbox due _ _ =>
      rw [outbox, due, Occasion.dueThen]
      obtain ⟨empty, undue⟩ | ⟨m, rest, queue, o', past, mem, due⟩ :=
        kept.scheduled (o.queueStep.running running)
      · change o.before.outbox = [] at empty
        change o.before.flushDue = none at undue
        obtain none_ | ⟨m, one, -⟩ := o.enqueued_cases
        · exact .inl (by simp [empty, none_, undue])
        · refine .inr ⟨m, [], by simp [empty, one], o, by simp, by simp [one], ?_⟩
          simp [one, undue]
      · change o.before.outbox = m :: rest at queue
        change o.before.flushDue = some (o'.env.now + o.before.config.writeDelay) at due
        refine .inr ⟨m, rest ++ o.enqueued, by simp [queue], o', by simp [past], mem, ?_⟩
        split <;> simp [due]
  | tried _ _ outbox due _ _ => exact .inl ⟨outbox, due⟩
  | held _ _ _ idle _ _ | givenUp _ _ _ _ idle _ _ => exact absurd running (by simp [idle])

theorem next_kept : Kept (t.next advance i) where
  numbered := numbered_next kept i
  ordered := ordered_next kept i
  placed := placed_next kept i
  reported := by
    intro o mem
    cases List.mem_append.mp mem with
    | inl past => exact kept.reported o past
    | inr now => exact (List.mem_singleton.mp now) ▸ Occasion.failures_eq _
  scheduled := scheduled_next kept i

end

theorem accounts_of_kept {t : Trace (Channel ρ) (Occasion ρ)} (kept : Kept t) : Accounts t := by
  have injective : Function.Injective fun n : Nat => toString (n + 1) :=
    fun a b same => Nat.succ_injective (Nat.repr_injective same)
  have ordered : (t.entries.flatMap Occasion.written).Sublist
      (t.entries.flatMap Occasion.enqueued) :=
    (List.sublist_append_left _ _).trans kept.ordered
  refine ⟨kept.toTally, ?_, ordered, ?_, ?_⟩
  · rw [kept.numbered]
    exact List.nodup_range.map injective
  · have ids := ordered.map (·.id)
    rw [kept.numbered] at ids
    obtain ⟨numbers, among, same⟩ := List.sublist_map_iff.mp ids
    refine ⟨numbers.map (· + 1), ?_, by rw [same, List.map_map]; rfl⟩
    exact (List.pairwise_lt_range.sublist among).map _ (fun a b => Nat.succ_lt_succ)
  · intro running m first
    obtain ⟨empty, -⟩ | ⟨m', rest, queue, o, past, mem, due⟩ := kept.scheduled running
    · simp [empty] at first
    · simp only [queue, List.head?_cons, Option.mem_some_iff] at first
      exact ⟨o, past, first ▸ mem, _, due, Nat.le_refl _⟩

theorem kept_start (c : Channel ρ) (lastId : c.lastId = 0) (outbox : c.outbox = [])
    (due : c.flushDue = none) : Kept { state := c } where
  numbered := by simp [lastId]
  placed := by simp [outbox]
  reported := by simp
  ordered := by simp [outbox]
  scheduled := fun _ => .inl ⟨outbox, due⟩

/-- A channel numbers its messages without a gap, writes them in order, loses none unseen, and
leaves none in the queue without a time to write it; whatever comes in, in whatever order. -/
theorem run_accounts (config : Config) (inputs : List (Surroundings × Input ρ)) :
    Accounts (Trace.run advance (Channel.overPipe config) inputs) ∧
      Accounts (Trace.run advance (Channel.overProcess config) inputs) := by
  have accounts (c : Channel ρ) (start : Kept { state := c }) :
      Accounts (Trace.run advance c inputs) :=
    accounts_of_kept (Trace.run_invariant (P := Kept) advance start
      (fun _ i kept => next_kept kept i) inputs)
  exact ⟨accounts _ (kept_start _ rfl rfl rfl), accounts _ (kept_start _ rfl rfl rfl)⟩

end DebugAdapter.Channel
