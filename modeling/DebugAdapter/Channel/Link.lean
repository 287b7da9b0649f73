import DebugAdapter.Channel.Basic
import DebugAdapter.Framing.Intake
/-!
# Links

A channel with all that lies between its holders and the interpreter: the commands that it has not
looked at yet, and the pipes. A child process has a third pipe, for its complaints, and an end of
its own. Each move of a link takes one command, takes one frame or some complaints, sees the end of
the process, or lets one timer fire; which move comes first is open.
-/

namespace DebugAdapter.Channel

/-- A channel between its holders and an interpreter. -/
structure Link (ρ : Type) where
  channel : Channel ρ
  intake : Framing.Intake
  commands : List (Command ρ) := []
  /-- How many hold the channel. -/
  holders : Nat := 1
  /-- The pipes to the interpreter. -/
  line : Framing.Line := {}
  /-- What a child process has written to its error stream. -/
  complaints : Framing.Pipe := {}
  /-- The code with which a child process has ended, whether or not the channel has seen it. -/
  fate : Option (Option Int) := none
deriving Repr, Inhabited

/-- What a link can do next. -/
inductive Move where
  /-- The next command is carried out; without holders and commands, the channel is given up. -/
  | command
  /-- The next frame is taken, or the end of the output seen. -/
  | read
  /-- Complaints are passed on. -/
  | complain
  /-- The end of the process is seen. -/
  | reap
  | flush
  | expire
deriving DecidableEq, Repr

namespace Link

variable {ρ : Type}

/-- A new link over pipes. -/
def overPipe (config : Config) : Link ρ :=
  { channel := .overPipe config, intake := { reader := { delimiting := config.delimiting } } }

/-- A new link to a child process. -/
def overProcess (config : Config) : Link ρ :=
  { channel := .overProcess config, intake := { reader := { delimiting := config.delimiting } } }

/-- One more command, unless the channel has ended. -/
def send? (l : Link ρ) (c : Command ρ) : Option (Link ρ) :=
  if l.channel.ended then none else some { l with commands := l.commands ++ [c] }

/-- What a step of the channel finds around it. -/
def surroundings (l : Link ρ) (now : Millis) : Surroundings :=
  { now, accepts := fun _ => !l.line.outbound.readerGone, killedCode := l.fate.getD none }

/-- The octets that some effects put on the wire. -/
def written (config : Config) (effects : List (Effect ρ)) : Bytes :=
  effects.flatMap fun e =>
    match e with
    | .write m =>
      match config.delimiting.encode m with
      | .ok bs => bs
      | .error _ => []
    | _ => []

/-- A step of the channel, with the octets that it writes. A channel that ends lets go of both
pipes. -/
def step (l : Link ρ) (now : Millis) (input : Input ρ) : Link ρ × List (Effect ρ) :=
  let (c, effects) := l.channel.step (l.surroundings now) input
  let outbound := (l.line.outbound.write? (written c.config effects)).getD l.line.outbound
  let line := { l.line with outbound }
  ({ l with
      channel := c
      commands := if c.ended then [] else l.commands
      line := if c.ended then line.leave else line }, effects)

/-- The requests among some commands that nobody will carry out any more. -/
def abandoned (commands : List (Command ρ)) : List (Effect ρ) :=
  commands.filterMap fun c =>
    match c with
    | .request asker .. => some (.complete asker (.error .closed))
    | _ => none

/-- The most octets of complaints that are passed on at once. -/
def complaintSize : Nat := 4096

/-- Some complaints are passed on. The channel need not be there any more. -/
def complain? (l : Link ρ) : Option (Link ρ × List (Effect ρ)) :=
  match l.complaints.octets with
  | [] => none
  | octets =>
    some ({ l with complaints := { l.complaints with octets := octets.drop complaintSize } },
      [.emit (.complaint (Utf8.decodeLossy (octets.take complaintSize)))])

/-- One move, if it is possible. -/
def perform? (l : Link ρ) (now : Millis) : Move → Option (Link ρ × List (Effect ρ))
  | .command =>
    if l.channel.ended then none
    else
      match l.commands with
      | c :: rest =>
        let (l, effects) := { l with commands := rest }.step now (.command c)
        some (l, effects ++ if l.channel.ended then abandoned rest else [])
      | [] => if l.holders = 0 then some (l.step now .released) else none
  | .read =>
    if l.channel.ended || !l.channel.readerOpen then none
    else
      let (taken, intake, inbound) := l.intake.take l.line.inbound
      let after := { l with intake, line := { l.line with inbound } }
      match taken with
      | .nothing =>
        if l.line.inbound.octets.isEmpty && !l.intake.readable then none else some (after, [])
      | .frame f => some (after.step now (.frame f))
      | .over => some (after.step now .endOfOutput)
  | .complain => l.complain?
  | .reap =>
    if l.channel.ended || !l.channel.hasChild then none
    else l.fate.map fun code => l.step now (.exit code)
  | .flush =>
    match l.channel.flushDue with
    | some due =>
      if due ≤ now && !l.channel.ended then some (l.step now .flush) else none
    | none => none
  | .expire =>
    match l.channel.requests.nextDeadline? with
    | some due =>
      if due ≤ now && !l.channel.ended then some (l.step now .expire) else none
    | none => none

/-- When the next timer fires. -/
def nextDue? (l : Link ρ) : Option Millis :=
  if l.channel.ended then none
  else
    match l.channel.flushDue, l.channel.requests.nextDeadline? with
    | some a, some b => some (min a b)
    | some a, none => some a
    | none, b => b

end Link

end DebugAdapter.Channel
