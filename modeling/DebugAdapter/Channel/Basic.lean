import DebugAdapter.Channel.Requests
import DebugAdapter.Framing.Delimited
/-!
# The channel to an interpreter

A channel numbers and queues what it sends, gives each reply to the request that it answers, answers
keep-alive requests itself, and reports everything else as events. It is written as a machine: an
input at some time leads to another state and to effects, in order. What the outside contributes is
part of the input: whether octets can be written, and with which code a child process ended.

A channel closes when the interpreter's output and, if there is one, its process have ended, or when
it is stopped, or when nobody holds it any more; it then fails all requests and reports that once.
-/

namespace DebugAdapter

open Interpreter (Message)

namespace Channel

/-- How a channel works. -/
structure Config where
  delimiting : Framing.Delimiting := {}
  /-- How long messages are held back, to be written together. -/
  writeDelay : Millis := 100
deriving DecidableEq, Repr, Inhabited

/-- What has become of the interpreter. -/
inductive Status where
  | running
  | killed
  | exited (code : Option Int)
deriving DecidableEq, Repr, Inhabited

/-- What a channel reports. -/
inductive Event where
  | spawned
  | exited (code : Option Int)
  | closed (code : Option Int)
  /-- Reading or writing failed. -/
  | failed (text : String)
  /-- Something the interpreter wrote to its error stream. -/
  | complaint (text : String)
  /-- A frame that holds no message. -/
  | unreadable (raw : String)
  | message (m : Message)
deriving Repr

/-- What a holder of the channel asks for. -/
inductive Command (ρ : Type) where
  | send (type : String) (data : Json) (reply : Option String)
  | request (asker : ρ) (type : String) (data : Json) (timeout : Option Millis)
  | stop
deriving Repr

/-- What happens to a channel. -/
inductive Input (ρ : Type) where
  | command (c : Command ρ)
  /-- Nobody holds the channel any more. -/
  | released
  | frame (f : Framing.Frame)
  | endOfOutput
  | readFailed
  | exit (code : Option Int)
  /-- The time has come to write what is queued. -/
  | flush
  /-- A deadline has passed. -/
  | expire
deriving Repr

/-- What the outside contributes to a step. -/
structure Surroundings where
  now : Millis := 0
  /-- Whether a message can be written. -/
  accepts : Message → Bool := fun _ => true
  /-- The code with which a child process ends when it is killed. -/
  killedCode : Option Int := none

/-- What a channel does. -/
inductive Effect (ρ : Type) where
  | emit (e : Event)
  | write (m : Message)
  | complete (asker : ρ) (result : Except RequestError Json)
  | kill
deriving Repr

end Channel

open Channel

/-- A channel. -/
structure Channel (ρ : Type) where
  config : Channel.Config
  status : Status := .running
  /-- Whether the interpreter's output has not ended. -/
  readerOpen : Bool := true
  /-- Whether there is a child process that has not been seen to end. -/
  hasChild : Bool := false
  /-- The code with which the process ended; without a process there is nothing to wait for. -/
  exitCode : Option (Option Int) := some none
  /-- Whether the end has been reported. -/
  closed : Bool := false
  /-- Whether nothing is handled any more. -/
  ended : Bool := false
  requests : Requests ρ := {}
  outbox : List Message := []
  lastId : Nat := 0
  flushDue : Option Millis := none
deriving Repr, Inhabited

namespace Channel

variable {ρ : Type}

/-- A channel to an interpreter at the other end of a pipe. -/
def overPipe (config : Config) : Channel ρ := { config }

/-- A channel to a child process. -/
def overProcess (config : Config) : Channel ρ := { config, hasChild := true, exitCode := none }

/-- Whether the interpreter is neither killed nor known to have ended. -/
def isRunning (c : Channel ρ) : Bool := c.status == .running

/-- One more message in the queue, with the next number; the first one sets the time to write. -/
def enqueue (c : Channel ρ) (now : Millis) (type : String) (data : Json) (reply : Option String) :
    Message × Channel ρ :=
  let m : Message := { type, id := toString (c.lastId + 1), reply, data }
  (m, { c with
    lastId := c.lastId + 1
    outbox := c.outbox ++ [m]
    flushDue := c.flushDue.or (some (now + c.config.writeDelay)) })

/-- The effect of writing a message. A message that cannot be written is lost, and that is
reported. -/
def writeEffect (config : Config) (accepts : Message → Bool) (m : Message) : Effect ρ :=
  match config.delimiting.encode m with
  | .error e => .emit (.failed e.message)
  | .ok _ => if accepts m then .write m else .emit (.failed Framing.FrameError.io.message)

/-- Everything in the queue is written, unless there is nobody to read it. -/
def flush (c : Channel ρ) (env : Surroundings) : Channel ρ × List (Effect ρ) :=
  let c := { c with flushDue := none }
  if c.isRunning then
    ({ c with outbox := [] }, c.outbox.map (writeEffect c.config env.accepts))
  else (c, [])

/-- All requests fail because the channel is gone. -/
def failAll (c : Channel ρ) : Channel ρ × List (Effect ρ) :=
  ({ c with requests := {} },
    c.requests.pending.map fun p => .complete p.asker (.error .closed))

/-- The end, if the output and the process have both ended and it has not been reported. -/
def closeIfDone (c : Channel ρ) : Channel ρ × List (Effect ρ) :=
  match c.exitCode with
  | some code =>
    if c.closed || c.readerOpen then (c, [])
    else
      let (c, effects) := { c with closed := true }.failAll
      (c, effects ++ [.emit (.closed code)])
  | none => (c, [])

/-- The interpreter is killed and the channel ends. -/
def shutdown (c : Channel ρ) (env : Surroundings) : Channel ρ × List (Effect ρ) :=
  let (c, failures) := { c with status := .killed, outbox := [] }.failAll
  let (c, kill) : Channel ρ × List (Effect ρ) :=
    if c.hasChild then
      ({ c with hasChild := false, exitCode := some env.killedCode },
        [.kill, .emit (.exited env.killedCode)])
    else (c, [])
  ({ c with closed := true, ended := true },
    failures ++ kill ++ if c.closed then [] else [.emit (.closed (c.exitCode.getD none))])

/-- A command is carried out. -/
def command (c : Channel ρ) (env : Surroundings) : Command ρ → Channel ρ × List (Effect ρ)
  | .send type data reply => ((c.enqueue env.now type data reply).2, [])
  | .request asker type data timeout =>
    if c.closed || !c.isRunning then (c, [.complete asker (.error .closed)])
    else
      let (m, c) := c.enqueue env.now type data none
      ({ c with requests := c.requests.insert env.now m.id asker timeout }, [])
  | .stop => c.shutdown env

/-- The answer to a keep-alive request: the time. -/
def pong (c : Channel ρ) (env : Surroundings) (m : Message) : Channel ρ × List (Effect ρ) :=
  (c.enqueue env.now Message.pingResponse (.string (toString env.now)) (some m.id)).2.flush env

/-- The request that a message answers. -/
def answered? (c : Channel ρ) (m : Message) : Option (Pending ρ) :=
  m.reply.bind c.requests.find?

/-- A message goes to one place: it is answered at once, or completes the request that it names, or
is dropped as an answer to nothing, or is reported. -/
def dispatch (c : Channel ρ) (env : Surroundings) (m : Message) : Channel ρ × List (Effect ρ) :=
  if m.isPing then c.pong env m
  else
    match c.answered? m with
    | some p =>
      ({ c with requests := c.requests.erase p.id }, [.complete p.asker (.ok m.data)])
    | none =>
      if m.type == Message.pingResponse then (c, []) else (c, [.emit (.message m)])

/-- The interpreter's output has ended. -/
def endOfOutput (c : Channel ρ) : Channel ρ × List (Effect ρ) :=
  { c with
    readerOpen := false
    status := if c.hasChild then c.status else .exited none }.closeIfDone

/-- The child process has ended. -/
def exit (c : Channel ρ) (code : Option Int) : Channel ρ × List (Effect ρ) :=
  let c := { c with
    hasChild := false
    exitCode := some code
    status := if c.status == Status.killed then .killed else .exited code }
  let (c, effects) := c.closeIfDone
  (c, .emit (.exited code) :: effects)

/-- The requests whose deadline has passed fail. -/
def expire (c : Channel ρ) (now : Millis) : Channel ρ × List (Effect ρ) :=
  ({ c with requests := c.requests.expire now },
    (c.requests.overdue now).map fun p => .complete p.asker (.error p.expiry))

/-- One step; a channel that has ended takes none. -/
def step (c : Channel ρ) (env : Surroundings) (input : Input ρ) : Channel ρ × List (Effect ρ) :=
  if c.ended then (c, [])
  else
    match input with
    | .command command => c.command env command
    | .released => c.shutdown env
    | .frame (.ok m) => c.dispatch env m
    | .frame (.error bad) => (c, [.emit (.unreadable bad.raw)])
    | .endOfOutput => c.endOfOutput
    | .readFailed => (c, [.emit (.failed Framing.FrameError.io.message)])
    | .exit code => c.exit code
    | .flush => c.flush env
    | .expire => c.expire env.now

end Channel

end DebugAdapter
