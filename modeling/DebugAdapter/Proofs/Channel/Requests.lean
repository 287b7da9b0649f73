import DebugAdapter.Proofs.Channel.Occasion
/-!
# What a step does to requests

A step accepts a request or refuses it, completes the one that a message answers, or those whose
deadline has passed, or all of them because the channel is gone; or it leaves them alone.
-/

namespace DebugAdapter.Channel

open Interpreter (Message)

variable {ρ : Type}

namespace Occasion

/-- Who asks for something in the step. -/
def asker? (o : Occasion ρ) : Option ρ :=
  match o.input with
  | .command (.request asker ..) => some asker
  | _ => none

/-- The request that the step accepts: it is known by the number of the message that carries it. -/
def accepted? (o : Occasion ρ) : Option (Pending ρ) :=
  match o.input with
  | .command (.request asker type data timeout) =>
    if o.before.closed || !o.before.isRunning then none
    else some
      { id := (o.before.enqueue o.env.now type data none).1.id
        asker
        deadline := timeout.map fun t => { due := o.env.now + t, after := t } }
  | _ => none

/-- What the step's message answers to the request with a number. -/
def answer? (o : Occasion ρ) (id : String) : Option Json :=
  match o.input with
  | .frame (.ok m) => if !m.isPing && m.reply == some id then some m.data else none
  | _ => none

/-- A step that does not end the channel. -/
structure Calm (o : Occasion ρ) : Prop where
  closed : o.after.closed = o.before.closed
  ended : o.after.ended = false
  silent : o.effects.any Effect.isClosed = false

/-- What becomes of the requests in a step. -/
inductive Settling (o : Occasion ρ) : Prop where
  | idle (calm : o.Calm) (asker : o.asker? = none) (completed : o.completed = [])
      (pending : o.after.requests.pending = o.before.requests.pending)
      (unanswered : ∀ p ∈ o.before.requests.pending, o.answer? p.id = none)
  | refused (asker : ρ) (calm : o.Calm) (asked : o.asker? = some asker) (accepted : o.accepted? = none)
      (gone : o.before.closed = true ∨ o.before.isRunning = false)
      (completed : o.completed = [(asker, .error .closed)])
      (pending : o.after.requests.pending = o.before.requests.pending)
  | accepted (p : Pending ρ) (calm : o.Calm) (asked : o.asker? = some p.asker)
      (accepted : o.accepted? = some p) (open_ : o.before.closed = false) (completed : o.completed = [])
      (pending : o.after.requests.pending = o.before.requests.pending ++ [p])
  | answered (p : Pending ρ) (data : Json) (calm : o.Calm) (asker : o.asker? = none)
      (waiting : p ∈ o.before.requests.pending) (answer : o.answer? p.id = some data)
      (completed : o.completed = [(p.asker, .ok data)])
      (pending : o.after.requests.pending = o.before.requests.pending.filter (·.id != p.id))
      (unanswered : ∀ id, id ≠ p.id → o.answer? id = none)
  | expired (calm : o.Calm) (input : o.input = .expire)
      (completed : o.completed = (o.before.requests.pending.filter (·.isOverdue o.env.now)).map
        fun p => (p.asker, .error p.expiry))
      (pending : o.after.requests.pending =
        o.before.requests.pending.filter (!·.isOverdue o.env.now))
  | failed (closed : o.after.closed = true)
      (ended : o.after.ended = true → o.input = .command .stop ∨ o.input = .released)
      (asker : o.asker? = none)
      (unanswered : ∀ id, o.answer? id = none)
      (completed : o.completed = o.before.abandonment) (pending : o.after.requests.pending = [])

theorem settling_stop (o : Occasion ρ) (step : o.before.step o.env o.input = o.before.shutdown o.env)
    (input : o.input = .command .stop ∨ o.input = .released) (asker : o.asker? = none)
    (unanswered : ∀ id, o.answer? id = none) : Settling o := by
  obtain ⟨-, -, completed⟩ := o.before.shutdown_shows o.env
  have state : o.after = _ := congrArg (·.1) (step.trans (o.before.shutdown_eq o.env))
  refine .failed (by rw [state]) (fun _ => input) asker unanswered ?_ (by rw [state])
  rw [Occasion.completed, effects, step, completed]

theorem settling_end (o : Occasion ρ) (c' : Channel ρ) (first : List (Effect ρ))
    (step : o.before.step o.env o.input = (c'.closeIfDone.1, first ++ c'.closeIfDone.2))
    (none_ : first.filterMap Effect.completion? = []) (silent : first.any Effect.isClosed = false)
    (requests : c'.requests = o.before.requests) (closed : c'.closed = o.before.closed)
    (ended : c'.ended = false) (asker : o.asker? = none) (unanswered : ∀ id, o.answer? id = none) :
    Settling o := by
  have state : o.after = c'.closeIfDone.1 := congrArg (·.1) step
  have shown : o.effects = first ++ c'.closeIfDone.2 := congrArg (·.2) step
  obtain kept | ⟨code, -, -, -, done⟩ := c'.closeIfDone_eq
  · rw [kept] at state shown
    rw [List.append_nil] at shown
    refine .idle ⟨by rw [state, closed], by rw [state, ended], by rw [shown, silent]⟩ asker ?_ ?_
      (fun p _ => unanswered p.id)
    · rw [completed, shown, none_]
    · rw [state, requests]
  · rw [done] at state shown
    obtain ⟨-, -, failures, -⟩ := c'.failAll_shows
    refine .failed (by rw [state]) (fun last => ?_) asker unanswered ?_ (by rw [state])
    · exact absurd last (by simp [state, ended])
    · rw [completed, shown, List.filterMap_append, List.filterMap_append, none_, failures,
        abandonment, requests]
      exact List.append_nil _

theorem settling_flush (o : Occasion ρ) (c' : Channel ρ)
    (step : o.before.step o.env o.input = c'.flush o.env)
    (requests : c'.requests = o.before.requests) (closed : c'.closed = o.before.closed)
    (ended : c'.ended = false) (asker : o.asker? = none) (unanswered : ∀ id, o.answer? id = none) :
    Settling o := by
  obtain ⟨completed, silent⟩ := c'.flush_shows o.env
  obtain ⟨requests', closed', ended'⟩ := c'.flush_requests o.env
  refine .idle ⟨?_, ?_, ?_⟩ asker ?_ ?_ (fun p _ => unanswered p.id)
  · rw [after, step, closed', closed]
  · rw [after, step, ended', ended]
  · rw [effects, step, silent]
  · rw [Occasion.completed, effects, step, completed]
  · rw [after, step, requests', requests]

section

variable (c : Channel ρ) (env : Surroundings) (live : c.ended = false)
include live

theorem settling_command (command : Command ρ) : Settling ⟨c, env, .command command⟩ := by
  cases command with
  | send type data reply =>
      refine .idle ⟨?_, ?_, ?_⟩ ?_ ?_ ?_ ?_ <;>
        simp [after, effects, completed, step, live, Channel.command, enqueue, asker?, answer?]
  | request asker type data timeout =>
      cases gone : c.closed || !c.isRunning with
      | true =>
          refine .refused asker ⟨?_, ?_, ?_⟩ ?_ ?_ (by simpa using gone) ?_ ?_ <;>
            simp [after, effects, completed, step, live, Channel.command, gone, asker?, accepted?,
              Effect.isClosed, Effect.completion?]
      | false =>
          have open_ : c.closed = false := (Bool.or_eq_false_iff.mp gone).1
          refine .accepted
              { id := (c.enqueue env.now type data none).1.id
                asker
                deadline := timeout.map fun t => { due := env.now + t, after := t } }
              ⟨?_, ?_, ?_⟩ ?_ ?_ open_ ?_ ?_ <;>
            simp [after, effects, completed, step, live, Channel.command, gone, asker?, accepted?,
              enqueue, Requests.insert]
  | stop => apply settling_stop <;> simp [step, live, Channel.command, asker?, answer?]

theorem settling_message (m : Message) : Settling ⟨c, env, .frame (.ok m)⟩ := by
  cases ping : m.isPing with
  | true =>
      apply settling_flush ⟨c, env, .frame (.ok m)⟩
          (c.enqueue env.now Message.pingResponse (.string (toString env.now)) (some m.id)).2 <;>
        simp [step, live, dispatch, ping, pong, asker?, answer?, enqueue]
  | false =>
      cases answers : c.answered? m with
      | some p =>
          obtain ⟨id, reply, found⟩ := Option.bind_eq_some_iff.mp answers
          have same : p.id = id := by simpa using List.find?_some found
          subst same
          refine .answered p m.data ⟨?_, ?_, ?_⟩ ?_ (List.mem_of_find?_eq_some found) ?_ ?_ ?_
              (fun id other => ?_) <;>
            simp [after, effects, completed, step, live, dispatch, ping, answers, asker?, answer?,
              Effect.isClosed, Effect.completion?, Requests.erase, reply]
          exact Ne.symm other
      | none =>
          have unanswered : ∀ p ∈ c.requests.pending, m.reply ≠ some p.id := by
            intro p mem reply
            rw [answered?, reply, Option.bind_some, Requests.find?, List.find?_eq_none] at answers
            exact absurd (beq_self_eq_true p.id) (answers p mem)
          cases stray : m.type == Message.pingResponse <;>
            refine .idle ⟨?_, ?_, ?_⟩ ?_ ?_ ?_ (fun p mem => ?_) <;>
            simp [after, effects, completed, step, live, dispatch, ping, answers, stray, asker?,
              answer?, Effect.isClosed, Effect.completion?]
          all_goals exact unanswered p mem

theorem settling_live (input : Input ρ) : Settling ⟨c, env, input⟩ := by
  cases input with
  | command command => exact settling_command c env live command
  | released => apply settling_stop <;> simp [step, live, asker?, answer?]
  | frame f =>
      cases f with
      | error bad =>
          refine .idle ⟨?_, ?_, ?_⟩ ?_ ?_ ?_ ?_ <;>
            simp [after, effects, completed, step, live, asker?, answer?, Effect.isClosed,
              Effect.completion?]
      | ok m => exact settling_message c env live m
  | endOfOutput =>
      apply settling_end ⟨c, env, .endOfOutput⟩ { c with
          readerOpen := false
          status := if c.hasChild then c.status else .exited none } [] <;>
        simp [step, live, endOfOutput, asker?, answer?]
  | readFailed =>
      refine .idle ⟨?_, ?_, ?_⟩ ?_ ?_ ?_ ?_ <;>
        simp [after, effects, completed, step, live, asker?, answer?, Effect.isClosed,
          Effect.completion?]
  | exit code =>
      apply settling_end ⟨c, env, .exit code⟩ { c with
          hasChild := false
          exitCode := some code
          status := if c.status == Status.killed then .killed else .exited code }
          [.emit (.exited code)] <;>
        simp [step, live, Channel.exit, asker?, answer?, Effect.isClosed, Effect.completion?]
  | flush => apply settling_flush ⟨c, env, .flush⟩ c <;> simp [step, live, asker?, answer?]
  | expire =>
      refine .expired ⟨?_, ?_, ?_⟩ rfl ?_ ?_ <;>
        simp [after, effects, completed, step, live, expire, Requests.expire, Requests.overdue,
          Effect.isClosed, Effect.completion?, Function.comp_def]

end

theorem settling (o : Occasion ρ) (live : o.before.ended = false) : Settling o :=
  settling_live o.before o.env live o.input

end Occasion

end DebugAdapter.Channel
