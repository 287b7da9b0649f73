import DebugAdapter.Proofs.Channel.Settlement
/-!
# How a channel comes to its end

The end of the output, the end of the process, and a stop come in any order, and each changes other
fields of a channel. What holds of these fields together, and what a step reports of them.
-/

namespace DebugAdapter.Channel

variable {ρ : Type}

namespace Event

/-- Whether the end of the process is reported. -/
def isExited : Event → Bool
  | .exited _ => true
  | _ => false

/-- Whether the end of the channel is reported. -/
def isClosed : Event → Bool
  | .closed _ => true
  | _ => false

/-- Whether something is reported that has nothing to do with the end. -/
def isPassing : Event → Bool
  | .failed _ | .unreadable _ | .message _ => true
  | _ => false

/-- Whether something is passed on that a child process writes to its error stream; that happens
beside the channel. -/
def isComplaint : Event → Bool
  | .complaint _ => true
  | _ => false

theorem isPassing_eq {e : Event} (passing : e.isPassing = true) :
    e.isExited = false ∧ e.isClosed = false ∧ e.isComplaint = false := by
  cases e <;> first | exact ⟨rfl, rfl, rfl⟩ | cases passing

end Event

/-- How far the interpreter and the channel have come. -/
structure Standing where
  status : Status
  readerOpen : Bool
  hasChild : Bool
  exitCode : Option (Option Int)
  closed : Bool
  ended : Bool

def standing (c : Channel ρ) : Standing :=
  { status := c.status, readerOpen := c.readerOpen, hasChild := c.hasChild, exitCode := c.exitCode,
    closed := c.closed, ended := c.ended }

theorem closeIfDone_standing (c : Channel ρ) :
    c.closeIfDone.1.readerOpen = c.readerOpen ∧ c.closeIfDone.1.hasChild = c.hasChild ∧
      c.closeIfDone.1.exitCode = c.exitCode := by
  obtain kept | ⟨code, -, -, -, done⟩ := c.closeIfDone_eq
  · rw [kept]
    exact ⟨rfl, rfl, rfl⟩
  · rw [done]
    exact ⟨rfl, rfl, rfl⟩

theorem closeIfDone_events (c : Channel ρ) :
    (c.closeIfDone.1.closed = c.closed ∧ c.closeIfDone.2.filterMap Effect.event? = []) ∨
      ∃ code, c.exitCode = some code ∧ c.closed = false ∧ c.readerOpen = false ∧
        c.closeIfDone.1.closed = true ∧ c.closeIfDone.2.filterMap Effect.event? = [.closed code] := by
  obtain kept | ⟨code, exited, open_, readerOpen, done⟩ := c.closeIfDone_eq
  · rw [kept]
    exact .inl ⟨rfl, rfl⟩
  · refine .inr ⟨code, exited, open_, readerOpen, ?_, ?_⟩
    · rw [done]
    · rw [done, List.filterMap_append, failAll_events]
      rfl

theorem flush_standing (c : Channel ρ) (env : Surroundings) :
    (c.flush env).1.standing = c.standing := by
  cases running : c.isRunning with
  | true => rw [c.flush_running env running]; rfl
  | false => rw [c.flush_idle env running]; rfl

/-- What holds of the fields together. -/
structure Consistent (c : Channel ρ) : Prop where
  child : c.hasChild = true ↔ c.exitCode = none
  ended : c.ended = true → c.closed = true
  idle : c.closed = true → c.isRunning = false
  pending : c.closed = true → c.requests.pending = []
  /-- Unless it was stopped, a channel closes when the output and the process have ended. -/
  finished : c.closed = true → c.ended = false → c.readerOpen = false ∧ c.hasChild = false

theorem consistent_overPipe (config : Config) : Consistent (overPipe (ρ := ρ) config) := by
  constructor <;> simp [overPipe]

theorem consistent_overProcess (config : Config) : Consistent (overProcess (ρ := ρ) config) := by
  constructor <;> simp [overProcess]

/-- A channel that learns of an end, and what it reports at once. -/
inductive Learns (c : Channel ρ) : Input ρ → Channel ρ → List (Effect ρ) → Prop
  | output : Learns c .endOfOutput
      { c with readerOpen := false, status := if c.hasChild then c.status else .exited none } []
  | exit (code : Option Int) : Learns c (.exit code)
      { c with
        hasChild := false
        exitCode := some code
        status := if c.status == Status.killed then .killed else .exited code }
      [.emit (.exited code)]

/-- What a channel that learns of an end keeps and knows. -/
structure Learned (c c' : Channel ρ) : Prop where
  closed : c'.closed = c.closed
  ended : c'.ended = c.ended
  requests : c'.requests = c.requests
  child : c'.hasChild = true ↔ c'.exitCode = none
  idle : c'.hasChild = false → c'.isRunning = false
  readerOpen : c.readerOpen = false → c'.readerOpen = false
  hasChild : c.hasChild = false → c'.hasChild = false

section

variable {c c' : Channel ρ} {input : Input ρ} {first : List (Effect ρ)}

theorem Learns.learned (learns : Learns c input c' first) (consistent : Consistent c) :
    Learned c c' := by
  cases learns with
  | output =>
      refine ⟨rfl, rfl, rfl, consistent.child, ?_, fun _ => rfl, id⟩
      intro none_
      simp [isRunning, show c.hasChild = false from none_]
  | exit code =>
      refine ⟨rfl, rfl, rfl, by simp, ?_, id, fun _ => rfl⟩
      intro _
      cases c.status <;> rfl

theorem Learned.consistent (learned : Learned c c') (consistent : Consistent c)
    (live : c.ended = false) : Consistent c'.closeIfDone.1 := by
  have childless : c'.exitCode ≠ none → c'.hasChild = false := fun some_ =>
    Bool.eq_false_iff.mpr fun child => some_ (learned.child.mp child)
  have live' : c'.ended = false := learned.ended.trans live
  obtain kept | ⟨code, exited, -, readerOpen, done⟩ := c'.closeIfDone_eq
  · rw [kept]
    have before (closed : c'.closed = true) := consistent.finished (learned.closed ▸ closed) live
    constructor
    · exact learned.child
    · intro ended
      exact absurd ended (by simp [live'])
    · intro closed
      exact learned.idle (learned.hasChild (before closed).2)
    · intro closed
      rw [learned.requests]
      exact consistent.pending (learned.closed ▸ closed)
    · intro closed _
      exact ⟨learned.readerOpen (before closed).1, learned.hasChild (before closed).2⟩
  · rw [done]
    have none_ : c'.hasChild = false := childless (by simp [exited])
    constructor
    · exact learned.child
    · intro _
      rfl
    · intro _
      exact learned.idle none_
    · intro _
      rfl
    · intro _ _
      exact ⟨readerOpen, none_⟩

end

theorem Consistent.shutdown {c : Channel ρ} (consistent : Consistent c) (env : Surroundings) :
    Consistent (c.shutdown env).1 := by
  rw [shutdown_eq]
  constructor
  · cases child : c.hasChild with
    | true => simp [killedCode, child]
    | false =>
        have some_ : c.exitCode ≠ none := fun none_ =>
          absurd (consistent.child.mpr none_) (by simp [child])
        simp [killedCode, child, some_]
  · simp
  · intro _
    rfl
  · simp
  · simp

namespace Occasion

/-- A channel reads until the output has ended, and waits for its process as long as it has one. -/
def Possible (o : Occasion ρ) : Prop :=
  match o.input with
  | .frame _ | .endOfOutput | .readFailed => o.before.readerOpen = true
  | .exit _ => o.before.hasChild = true
  | _ => True

/-- What a step means for the end. -/
inductive Course (o : Occasion ρ) : Prop where
  | steady (same : o.after.standing = o.before.standing)
      (passing : ∀ e ∈ o.events, e.isPassing = true)
      (silent : o.Possible → o.before.readerOpen = false → o.before.isRunning = false →
        o.events = [])
  | learns (c : Channel ρ) (first : List (Effect ρ)) (learns : Learns o.before o.input c first)
      (step : o.before.step o.env o.input = (c.closeIfDone.1, first ++ c.closeIfDone.2))
  | stops (stops : o.stops = true) (step : o.before.step o.env o.input = o.before.shutdown o.env)

/-- A step without effects that changes nothing of the end. -/
theorem steady_of_complete (o : Occasion ρ) (same : o.after.standing = o.before.standing)
    (silent : o.events = []) : Course o :=
  .steady same (by simp [silent]) (fun _ _ _ => silent)

theorem course_flush (o : Occasion ρ) (c' : Channel ρ)
    (step : o.before.step o.env o.input = c'.flush o.env) (same : c'.standing = o.before.standing) :
    Course o := by
  have after : o.after = (c'.flush o.env).1 := congrArg (·.1) step
  have events : o.events = (c'.flush o.env).2.filterMap Effect.event? :=
    congrArg (·.2.filterMap Effect.event?) step
  refine .steady ?_ ?_ ?_
  · rw [after, flush_standing, same]
  · intro e mem
    rw [events] at mem
    obtain ⟨text, rfl⟩ := c'.flush_events o.env e mem
    rfl
  · intro _ _ idle
    have idle' : c'.isRunning = false := by
      rw [isRunning, show c'.status = _ from congrArg Standing.status same]
      exact idle
    rw [events, c'.flush_idle o.env idle']
    rfl

section

variable (c : Channel ρ) (env : Surroundings) (live : c.ended = false)
include live

theorem course_command (command : Command ρ) : Course ⟨c, env, .command command⟩ := by
  cases command with
  | send type data reply =>
      apply steady_of_complete <;>
        simp [after, events, effects, step, live, Channel.command, enqueue, standing]
  | request asker type data timeout =>
      apply steady_of_complete <;> cases gone : c.closed || !c.isRunning <;>
        simp [after, events, effects, step, live, Channel.command, gone, enqueue, standing,
          Effect.event?]
  | stop => apply Course.stops <;> simp [stops, step, live, Channel.command]

theorem course_message (m : Interpreter.Message) : Course ⟨c, env, .frame (.ok m)⟩ := by
  cases ping : m.isPing with
  | true =>
      apply course_flush ⟨c, env, .frame (.ok m)⟩ (c.enqueue env.now
        Interpreter.Message.pingResponse (.string (toString env.now)) (some m.id)).2
      · simp [step, live, dispatch, ping, pong]
      · rfl
  | false =>
      cases answers : c.answered? m with
      | some p =>
          apply steady_of_complete <;>
            simp [after, events, effects, step, live, dispatch, ping, answers, standing,
              Effect.event?]
      | none =>
          apply Course.steady
          · cases stray : m.type == Interpreter.Message.pingResponse <;>
              simp [after, step, live, dispatch, ping, answers, stray]
          · cases stray : m.type == Interpreter.Message.pingResponse <;>
              simp [events, effects, step, live, dispatch, ping, answers, stray, Effect.event?,
                Event.isPassing]
          · intro possible closed
            exact absurd (possible.symm.trans closed) (by decide)

theorem course_live (input : Input ρ) : Course ⟨c, env, input⟩ := by
  cases input with
  | command command => exact course_command c env live command
  | released => apply Course.stops <;> simp [stops, step, live]
  | frame f =>
      cases f with
      | ok m => exact course_message c env live m
      | error bad =>
          apply Course.steady
          · simp [after, step, live]
          · simp [events, effects, step, live, Effect.event?, Event.isPassing]
          · intro possible closed
            exact absurd (possible.symm.trans closed) (by decide)
  | endOfOutput =>
      apply Course.learns _ _ .output
      simp [step, live, endOfOutput]
  | readFailed =>
      apply Course.steady
      · simp [after, step, live]
      · simp [events, effects, step, live, Effect.event?, Event.isPassing]
      · intro possible closed
        exact absurd (possible.symm.trans closed) (by decide)
  | exit code =>
      apply Course.learns _ _ (.exit code)
      simp [step, live, Channel.exit]
  | flush =>
      apply course_flush ⟨c, env, .flush⟩ c
      · simp [step, live]
      · rfl
  | expire =>
      apply steady_of_complete
      · simp [after, step, live, expire, standing]
      · simp [events, effects, step, live, expire, Function.comp_def, Effect.event?]

end

theorem course (o : Occasion ρ) (live : o.before.ended = false) : Course o :=
  course_live o.before o.env live o.input

/-! ## What a step reports -/

section

variable {o : Occasion ρ} (consistent : Consistent o.before)
include consistent

theorem consistent_after : Consistent o.after := by
  cases live : o.before.ended with
  | true =>
      have same : o.after = o.before := by simp [after, step, live]
      exact same ▸ consistent
  | false =>
      cases o.course live with
      | steady same =>
          have field {α : Type} (f : Standing → α) : f o.after.standing = f o.before.standing :=
            congrArg f same
          have closed : o.after.closed = o.before.closed := field Standing.closed
          constructor
          · rw [show o.after.hasChild = _ from field Standing.hasChild,
              show o.after.exitCode = _ from field Standing.exitCode]
            exact consistent.child
          · rw [show o.after.ended = _ from field Standing.ended, closed]
            exact consistent.ended
          · rw [isRunning, show o.after.status = _ from field Standing.status, closed]
            exact consistent.idle
          · exact o.pending_of_closed live consistent.pending
          · rw [show o.after.ended = _ from field Standing.ended, closed,
              show o.after.readerOpen = _ from field Standing.readerOpen,
              show o.after.hasChild = _ from field Standing.hasChild]
            exact consistent.finished
      | learns c first learns step =>
          have after : o.after = c.closeIfDone.1 := congrArg (·.1) step
          rw [after]
          exact (learns.learned consistent).consistent consistent live
      | stops _ step =>
          have after : o.after = (o.before.shutdown o.env).1 := congrArg (·.1) step
          rw [after]
          exact consistent.shutdown o.env

end

theorem events_of_learns {o : Occasion ρ} {c : Channel ρ} {first : List (Effect ρ)}
    (step : o.before.step o.env o.input = (c.closeIfDone.1, first ++ c.closeIfDone.2)) :
    o.events =
      first.filterMap Effect.event? ++ c.closeIfDone.2.filterMap Effect.event? :=
  (congrArg (·.2.filterMap Effect.event?) step).trans List.filterMap_append

theorem written_of_flushes {o : Occasion ρ} (flushes : o.flushes = false) : o.written = [] := by
  rw [written_eq, attempted, flushes]
  rfl

section

variable {o : Occasion ρ} (live : o.before.ended = false)
include live

/-- What a step reports of the process: its end, if that is seen. -/
theorem countP_exited (possible : o.Possible) :
    o.events.countP Event.isExited + o.after.hasChild.toNat = o.before.hasChild.toNat := by
  cases o.course live with
  | steady same passing =>
      have none_ : o.events.countP Event.isExited = 0 :=
        List.countP_eq_zero.mpr fun e mem => by simp [(Event.isPassing_eq (passing e mem)).1]
      rw [none_, show o.after.hasChild = _ from congrArg Standing.hasChild same, Nat.zero_add]
      rfl
  | learns c first learns step =>
      have after : o.after.hasChild = c.hasChild :=
        (congrArg (·.1.hasChild) step).trans c.closeIfDone_standing.2.1
      have events := events_of_learns step
      have none_ : (c.closeIfDone.2.filterMap Effect.event?).countP Event.isExited = 0 := by
        obtain ⟨-, silent⟩ | ⟨code, -, -, -, -, closed⟩ := c.closeIfDone_events
        · rw [silent]
          rfl
        · rw [closed]
          rfl
      rw [events, after, List.countP_append, none_]
      obtain ⟨before, env, input⟩ := o
      cases learns with
      | output => exact Nat.zero_add _
      | exit code =>
          have child : before.hasChild = true := possible
          simp [child, Effect.event?, Event.isExited]
  | stops _ step =>
      have after : o.after.hasChild = false :=
        (congrArg (·.1.hasChild) step).trans (by rw [shutdown_eq])
      have events : o.events = _ := congrArg (·.2.filterMap Effect.event?) step
      rw [events, after, shutdown_events]
      cases o.before.hasChild <;> cases o.before.closed <;> rfl

theorem isComplaint_of_mem : ∀ e ∈ o.events, e.isComplaint = false := by
  intro e mem
  cases o.course live with
  | steady _ passing => exact (Event.isPassing_eq (passing e mem)).2.2
  | learns c first learns step =>
      have events := events_of_learns step
      rw [events] at mem
      cases List.mem_append.mp mem with
      | inl here =>
          obtain ⟨before, env, input⟩ := o
          cases learns with
          | output => cases here
          | exit code =>
              cases List.mem_singleton.mp here
              rfl
      | inr here =>
          obtain ⟨-, silent⟩ | ⟨code, -, -, -, -, closed⟩ := c.closeIfDone_events
          · rw [silent] at here
            cases here
          · rw [closed] at here
            cases List.mem_singleton.mp here
            rfl
  | stops _ step =>
      have events : o.events = _ := congrArg (·.2.filterMap Effect.event?) step
      rw [events, shutdown_events] at mem
      revert mem
      cases o.before.hasChild <;> cases o.before.closed <;> simp [Event.isComplaint] <;>
        rintro (rfl | rfl) <;> rfl

/-- A channel that has closed reports and writes nothing more. -/
theorem silent_of_closed (consistent : Consistent o.before) (possible : o.Possible)
    (closed : o.before.closed = true) : o.events = [] ∧ o.written = [] := by
  obtain ⟨drained, none_⟩ := consistent.finished closed live
  have idle := consistent.idle closed
  refine ⟨?_, written_of_flushes (by simp [flushes, idle])⟩
  cases o.course live with
  | steady _ _ silent => exact silent possible drained idle
  | learns c first learns =>
      obtain ⟨before, env, input⟩ := o
      cases learns with
      | output => exact absurd (possible.symm.trans drained) (by decide)
      | exit code => exact absurd (possible.symm.trans none_) (by decide)
  | stops _ step =>
      have events : o.events = _ := congrArg (·.2.filterMap Effect.event?) step
      rw [events, shutdown_events, none_, closed]
      rfl

/-- A step closes the channel when it reports that, and then as the last thing; either the channel
is stopped, or the output and the process have ended. -/
theorem closing (consistent : Consistent o.before) (open_ : o.before.closed = false) :
    (o.after.closed = false ∧ ∀ e ∈ o.events, e.isClosed = false) ∨
      (o.after.closed = true ∧ o.written = [] ∧ ∃ front code, o.events = front ++ [.closed code] ∧
        (∀ e ∈ front, e.isClosed = false) ∧
        (o.stops = true ∨ o.after.ended = false ∧ o.after.readerOpen = false ∧
          o.after.exitCode = some code)) := by
  cases o.course live with
  | steady same passing =>
      refine .inl ⟨(congrArg Standing.closed same).trans open_, ?_⟩
      intro e mem
      exact (Event.isPassing_eq (passing e mem)).2.1
  | learns c first learns step =>
      have after : o.after = c.closeIfDone.1 := congrArg (·.1) step
      have events := events_of_learns step
      have learned := learns.learned consistent
      obtain ⟨others, flushes⟩ : (∀ e ∈ first.filterMap Effect.event?, e.isClosed = false) ∧
          o.flushes = false := by
        obtain ⟨before, env, input⟩ := o
        cases learns <;> simp [flushes, Effect.event?, Event.isClosed]
      obtain ⟨readerOpen, -, exitCode⟩ := c.closeIfDone_standing
      obtain ⟨same, silent⟩ | ⟨code, exited, -, drained, closed, report⟩ := c.closeIfDone_events
      · refine .inl ⟨after ▸ same.trans (learned.closed.trans open_), ?_⟩
        rw [events, silent, List.append_nil]
        exact others
      · refine .inr ⟨after ▸ closed, written_of_flushes flushes, _, code,
          events.trans (by rw [report]), others, .inr ?_⟩
        · rw [after, readerOpen, exitCode, c.closeIfDone_queue.2.2.2.2.2]
          exact ⟨learned.ended.trans live, drained, exited⟩
  | stops stops step =>
      have events : o.events = _ := congrArg (·.2.filterMap Effect.event?) step
      refine .inr ⟨(congrArg (·.1.closed) step).trans (by rw [shutdown_eq]), ?_, _, _,
        events.trans (by rw [shutdown_events, open_]; rfl), ?_, .inl stops⟩
      · apply written_of_flushes
        simp only [Occasion.stops, flushes] at stops ⊢
        split at stops <;> simp_all
      · cases o.before.hasChild <;> simp [Event.isClosed]

theorem output_seen (open_ : o.before.readerOpen = true) (drained : o.after.readerOpen = false) :
    o.input = .endOfOutput := by
  obtain ⟨before, env, input⟩ := o
  cases Occasion.course _ live with
  | steady same =>
      have kept := congrArg Standing.readerOpen same
      exact absurd (open_.symm.trans (kept.symm.trans drained)) (by decide)
  | learns c first learns step =>
      cases learns with
      | output => rfl
      | exit code =>
          have kept := (congrArg (·.1.readerOpen) step).trans (closeIfDone_standing _).1
          exact absurd (open_.symm.trans (kept.symm.trans drained)) (by decide)
  | stops _ step =>
      have kept := (congrArg (·.1.readerOpen) step).trans (by rw [shutdown_eq])
      exact absurd (open_.symm.trans (kept.symm.trans drained)) (by decide)

theorem exit_seen (live' : o.after.ended = false) {code : Option Int}
    (exited : o.after.exitCode = some code) :
    o.before.exitCode = some code ∨ o.input = .exit code ∧ .exited code ∈ o.events := by
  obtain ⟨before, env, input⟩ := o
  cases Occasion.course _ live with
  | steady same => exact .inl ((congrArg Standing.exitCode same).symm.trans exited)
  | learns c first learns step =>
      have kept := (congrArg (·.1.exitCode) step).trans c.closeIfDone_standing.2.2
      have same := kept.symm.trans exited
      cases learns with
      | output => exact .inl same
      | exit code' =>
          cases Option.some.inj same
          refine .inr ⟨rfl, ?_⟩
          rw [show Occasion.events _ = _ from congrArg (·.2.filterMap Effect.event?) step]
          exact List.mem_cons_self
  | stops _ step =>
      have last : Occasion.after ⟨before, env, input⟩ = _ :=
        (congrArg (·.1) step).trans (congrArg (·.1) (before.shutdown_eq env))
      rw [last] at live'
      cases live'

end

end Occasion

end DebugAdapter.Channel
