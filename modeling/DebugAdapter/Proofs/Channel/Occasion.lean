import DebugAdapter.Channel.Basic
import DebugAdapter.Proofs.Trace
/-!
# Steps of a channel

What a step shows to the outside, and what the parts of a step leave alone.
-/

namespace DebugAdapter.Channel

open Interpreter (Message)

variable {ρ : Type}

namespace Effect

/-- The message that an effect writes. -/
def written? : Effect ρ → Option Message
  | .write m => some m
  | _ => none

/-- The error that an effect reports. -/
def failure? : Effect ρ → Option String
  | .emit (.failed text) => some text
  | _ => none

/-- The request that an effect completes, and with what. -/
def completion? : Effect ρ → Option (ρ × Except RequestError Json)
  | .complete asker result => some (asker, result)
  | _ => none

/-- What an effect reports. -/
def event? : Effect ρ → Option Event
  | .emit e => some e
  | _ => none

/-- Whether an effect reports the end. -/
def isClosed : Effect ρ → Bool
  | .emit (.closed _) => true
  | _ => false

end Effect

/-- A step of a channel: what was there before it, and what happened. -/
structure Occasion (ρ : Type) where
  before : Channel ρ
  env : Surroundings
  input : Input ρ

namespace Occasion

def after (o : Occasion ρ) : Channel ρ := (o.before.step o.env o.input).1

def effects (o : Occasion ρ) : List (Effect ρ) := (o.before.step o.env o.input).2

/-- The messages that the step writes. -/
def written (o : Occasion ρ) : List Message := o.effects.filterMap Effect.written?

/-- The errors that the step reports. -/
def failures (o : Occasion ρ) : List String := o.effects.filterMap Effect.failure?

/-- What the step reports. -/
def events (o : Occasion ρ) : List Event := o.effects.filterMap Effect.event?

/-- The requests that the step completes. -/
def completed (o : Occasion ρ) : List (ρ × Except RequestError Json) :=
  o.effects.filterMap Effect.completion?

end Occasion

/-- A step, as it is remembered. -/
def advance (c : Channel ρ) (i : Surroundings × Input ρ) : Channel ρ × Occasion ρ :=
  ((c.step i.1 i.2).1, ⟨c, i.1, i.2⟩)

/-! ## Parts of a step -/

section

variable (c : Channel ρ) (env : Surroundings)

theorem flush_running (running : c.isRunning = true) :
    c.flush env = ({ c with flushDue := none, outbox := [] },
      c.outbox.map (writeEffect c.config env.accepts)) := by
  have same : ({ c with flushDue := none } : Channel ρ).isRunning = true := running
  simp only [flush, same, if_true]

theorem flush_idle (idle : c.isRunning = false) :
    c.flush env = ({ c with flushDue := none }, []) := by
  have same : ({ c with flushDue := none } : Channel ρ).isRunning = false := idle
  simp only [flush, same, Bool.false_eq_true, if_false]

theorem writeEffect_shows (config : Config) (accepts : Message → Bool) (m : Message) :
    (writeEffect (ρ := ρ) config accepts m).completion? = none ∧
      (writeEffect (ρ := ρ) config accepts m).isClosed = false := by
  unfold writeEffect
  cases config.delimiting.encode m with
  | error e => exact ⟨rfl, rfl⟩
  | ok bs => cases accepts m <;> exact ⟨rfl, rfl⟩

/-- Writing what is queued leaves the requests alone. -/
theorem flush_shows :
    (c.flush env).2.filterMap Effect.completion? = [] ∧
      (c.flush env).2.any Effect.isClosed = false := by
  cases running : c.isRunning with
  | true =>
      rw [c.flush_running env running]
      constructor
      · simp [writeEffect_shows]
      · simp [writeEffect_shows]
  | false =>
      rw [c.flush_idle env running]
      exact ⟨rfl, rfl⟩

theorem flush_requests :
    (c.flush env).1.requests = c.requests ∧ (c.flush env).1.closed = c.closed ∧
      (c.flush env).1.ended = c.ended := by
  cases running : c.isRunning with
  | true =>
      rw [c.flush_running env running]
      exact ⟨rfl, rfl, rfl⟩
  | false =>
      rw [c.flush_idle env running]
      exact ⟨rfl, rfl, rfl⟩

/-- The completions of the requests that fail because the channel is gone. -/
def abandonment : List (ρ × Except RequestError Json) :=
  c.requests.pending.map fun p => (p.asker, .error .closed)

theorem failAll_shows :
    c.failAll.2.filterMap Effect.written? = [] ∧ c.failAll.2.filterMap Effect.failure? = [] ∧
      c.failAll.2.filterMap Effect.completion? = c.abandonment ∧
      c.failAll.2.any Effect.isClosed = false := by
  refine ⟨?_, ?_, ?_, ?_⟩ <;>
    simp [failAll, abandonment, Function.comp_def, Effect.written?, Effect.failure?,
      Effect.completion?, Effect.isClosed]

/-- The end is reported only if the output and the process have ended, and then at most once. -/
theorem closeIfDone_eq :
    c.closeIfDone = (c, []) ∨
      ∃ code, c.exitCode = some code ∧ c.closed = false ∧ c.readerOpen = false ∧
        c.closeIfDone =
          ({ c with closed := true, requests := {} }, c.failAll.2 ++ [.emit (.closed code)]) := by
  unfold closeIfDone
  split
  · rename_i code done
    split
    · exact .inl rfl
    · rename_i open_
      rw [Bool.or_eq_true, not_or, Bool.not_eq_true, Bool.not_eq_true] at open_
      exact .inr ⟨code, done, open_.1, open_.2, rfl⟩
  · exact .inl rfl

/-- What a channel does with its process when it is stopped. -/
def killing : List (Effect ρ) :=
  if c.hasChild then [.kill, .emit (.exited env.killedCode)] else []

/-- The code that a channel reports when it is stopped. -/
def killedCode : Option (Option Int) := if c.hasChild then some env.killedCode else c.exitCode

theorem shutdown_eq :
    c.shutdown env =
      ({ c with
          status := .killed
          hasChild := false
          exitCode := c.killedCode env
          closed := true
          ended := true
          requests := {}
          outbox := [] },
        c.failAll.2 ++ c.killing env ++
          if c.closed then [] else [.emit (.closed ((c.killedCode env).getD none))]) := by
  unfold shutdown killing killedCode
  cases child : c.hasChild <;> simp [failAll, child]

theorem shutdown_shows :
    (c.shutdown env).2.filterMap Effect.written? = [] ∧
      (c.shutdown env).2.filterMap Effect.failure? = [] ∧
      (c.shutdown env).2.filterMap Effect.completion? = c.abandonment := by
  obtain ⟨written, failure, completion, -⟩ := c.failAll_shows
  rw [shutdown_eq]
  simp only [List.filterMap_append, written, failure, completion, killing]
  refine ⟨?_, ?_, ?_⟩
  · split <;> split <;> rfl
  · split <;> split <;> rfl
  · split <;> split <;> simp [Effect.completion?]

theorem closeIfDone_shows :
    c.closeIfDone.2.filterMap Effect.written? = [] ∧
      c.closeIfDone.2.filterMap Effect.failure? = [] := by
  obtain ⟨written, failure, -, -⟩ := c.failAll_shows
  obtain kept | ⟨code, -, -, -, done⟩ := c.closeIfDone_eq
  · rw [kept]
    exact ⟨rfl, rfl⟩
  · rw [done]
    simp only [List.filterMap_append, written, failure]
    exact ⟨rfl, rfl⟩

/-! ### What is reported -/

theorem failAll_events : c.failAll.2.filterMap Effect.event? = [] := by
  simp [failAll, Function.comp_def, Effect.event?]

theorem killing_events :
    (c.killing env).filterMap Effect.event? =
      if c.hasChild then [.exited env.killedCode] else [] := by
  unfold killing
  split <;> rfl

theorem shutdown_events :
    (c.shutdown env).2.filterMap Effect.event? =
      (if c.hasChild then [.exited env.killedCode] else []) ++
        if c.closed then [] else [.closed ((c.killedCode env).getD none)] := by
  rw [shutdown_eq, List.filterMap_append, List.filterMap_append, failAll_events, killing_events]
  cases c.closed <;> rfl

theorem writeEffect_events (config : Config) (accepts : Message → Bool) (ms : List Message) :
    ∀ e ∈ (ms.map (writeEffect (ρ := ρ) config accepts)).filterMap Effect.event?,
      ∃ text, e = .failed text := by
  intro e mem
  obtain ⟨effect, written, reported⟩ := List.mem_filterMap.mp mem
  obtain ⟨m, -, rfl⟩ := List.mem_map.mp written
  unfold writeEffect at reported
  split at reported
  · exact ⟨_, (Option.some.inj reported).symm⟩
  · split at reported
    · cases reported
    · exact ⟨_, (Option.some.inj reported).symm⟩

theorem flush_events : ∀ e ∈ (c.flush env).2.filterMap Effect.event?, ∃ text, e = .failed text := by
  cases running : c.isRunning with
  | true =>
      rw [c.flush_running env running]
      exact writeEffect_events _ _ _
  | false =>
      rw [c.flush_idle env running]
      simp

/-- The end of the channel leaves the queue alone. -/
theorem closeIfDone_queue :
    c.closeIfDone.1.outbox = c.outbox ∧ c.closeIfDone.1.lastId = c.lastId ∧
      c.closeIfDone.1.flushDue = c.flushDue ∧ c.closeIfDone.1.config = c.config ∧
      c.closeIfDone.1.status = c.status ∧ c.closeIfDone.1.ended = c.ended := by
  obtain kept | ⟨code, -, -, -, done⟩ := c.closeIfDone_eq
  · rw [kept]
    exact ⟨rfl, rfl, rfl, rfl, rfl, rfl⟩
  · rw [done]
    exact ⟨rfl, rfl, rfl, rfl, rfl, rfl⟩

end

end DebugAdapter.Channel
