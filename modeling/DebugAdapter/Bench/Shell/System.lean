import DebugAdapter.Bench.Shell.Process
import DebugAdapter.Framing.Intake
/-!
# Systems of processes

Processes that run side by side, with the pipes and files that they share. A pipe ends for its
reader when no process holds it for writing any more. Three pipes lead out of the system: the
input, the output and the complaints of the process that was there first.
-/

namespace DebugAdapter.Bench.Shell

/-- A process and what the system knows of it. -/
structure Running where
  number : Nat
  process : Process
  held : List Opened
  /-- When its sleep ends. -/
  due : Option Millis := none
  handling : List (Nat × Handling) := []
  kept : List Nat := []
  fate : Option Fate := none
deriving Inhabited

/-- Processes that run side by side. -/
structure System where
  running : List Running
  pipes : List (Nat × Bytes) := []
  files : List (String × Bytes) := []
  nextPipe : Nat := 3
deriving Inhabited

/-- What a step reads from the input of the system and writes to its other pipes. -/
structure Exchange where
  output : Bytes := []
  errors : Bytes := []
  used : Nat := 0
deriving DecidableEq, Repr, Inhabited

namespace Running

/-- Whether the process runs and holds a stream. -/
def holds (p : Running) (o : Opened) : Bool := p.fate.isNone && p.held.contains o

/-- The process has come to its end. -/
def finish (p : Running) (fate : Fate) : Running :=
  { p with fate := some fate, held := [], due := none }

/-- What the process does about a signal. -/
def handlingOf (p : Running) (signal : Nat) : Handling :=
  if signal = 9 then .usual else (p.handling.lookup signal).getD .usual

/-- The signals that do not end a process that does nothing about them. -/
def harmless : List Nat := [0, 17, 18, 19, 20, 21, 22, 23, 28]

/-- The process gets a signal. -/
def receive (p : Running) (signal : Nat) : Running :=
  if p.fate.isSome || signal = 0 then p
  else
    match p.handlingOf signal with
    | .ignored => p
    | .kept => { p with kept := p.kept ++ [signal] }
    | .usual => if harmless.contains signal then p else p.finish (.signalled signal)

end Running

namespace System

/-- How many octets a pipe between two processes holds at most. -/
def pipeSize : Nat := 65536

/-- The signal for a process that writes where nobody reads. -/
def brokenPipe : Nat := 13

/-- The number of the process that was there first. -/
def firstNumber : Nat := 1000

/-- A system with one process. -/
def ofProcess (p : Process) : System :=
  { running := [{ number := firstNumber, process := p, held := [.input, .output, .errors] }] }

/-- Whether a process that runs holds a stream. -/
def holds (s : System) (o : Opened) : Bool := s.running.any (·.holds o)

/-- How the process that was there first has ended. -/
def fate (s : System) : Option Fate := s.running.head?.bind (·.fate)

/-- The process with a number. -/
def find? (s : System) (number : Nat) : Option Running := s.running.find? (·.number = number)

/-- The system with one process changed. -/
def set (s : System) (p : Running) : System :=
  { s with running := s.running.map fun q => if q.number = p.number then p else q }

/-- A process gets a signal. -/
def deliver (s : System) (number signal : Nat) : System :=
  { s with running := s.running.map fun p => if p.number = number then p.receive signal else p }

/-- The process that was there first is ended from outside. -/
def kill (s : System) : System := s.deliver firstNumber 9

/-- The octets in a pipe. -/
def contents (s : System) (pipe : Nat) : Bytes := (s.pipes.lookup pipe).getD []

/-- The system with other octets in a pipe. -/
def withContents (s : System) (pipe : Nat) (bs : Bytes) : System :=
  { s with pipes := (pipe, bs) :: s.pipes.filter (·.1 ≠ pipe) }

/-- The system with other contents of a file. -/
def withFile (s : System) (name : String) (bs : Option Bytes) : System :=
  let others := s.files.filter (·.1 ≠ name)
  { s with files := (bs.map fun bs => (name, bs)).toList ++ others }

/-- Octets are written to a pipe between two processes. -/
def writePipe? (s : System) (p : Running) (pipe : Nat) (bs : Bytes) (next : Delivery → Process) :
    Option System :=
  if !s.holds (.reading pipe) then
    match p.handlingOf brokenPipe with
    | .usual => some (s.set (p.finish (.signalled brokenPipe)))
    | _ => some (s.set { p with process := next .unread })
  else
    let before := s.contents pipe
    if bs.isEmpty then some (s.set { p with process := next .written })
    else
      let room := pipeSize - before.length
      if room = 0 then none
      else
        let s := s.withContents pipe (before ++ bs.take room)
        let left := bs.drop room
        let process := if left.isEmpty then next .written else .write (.writing pipe) left next
        some (s.set { p with process })

/-- A step of a process, if it can take one. -/
def stepOf? (now : Millis) (input : Framing.Pipe) (s : System) (p : Running) :
    Option (System × Exchange) :=
  let go (s : System) (next : Process) : Option (System × Exchange) :=
    some (s.set { p with process := next }, {})
  match p.process with
  | .ended status => some (s.set (p.finish (.exited status)), {})
  | .write sink bs next =>
    match sink with
    | .writing 1 => some (s.set { p with process := next .written }, { output := bs })
    | .writing 2 => some (s.set { p with process := next .written }, { errors := bs })
    | .writing pipe => (s.writePipe? p pipe bs next).map fun s => (s, {})
    | .file name =>
      let before := (s.files.lookup name).getD []
      go (s.withFile name (some (before ++ bs))) (next .written)
    | .nothing => go s (next .written)
    | .reading _ => go s (next .refused)
  | .read source most next =>
    match source with
    | .reading 0 =>
      let part := input.octets.take most
      if part.isEmpty then if input.writerGone || most = 0 then go s (next []) else none
      else some (s.set { p with process := next part }, { used := part.length })
    | .reading pipe =>
      let before := s.contents pipe
      let part := before.take most
      if part.isEmpty && most ≠ 0 && s.holds (.writing pipe) then none
      else go (s.withContents pipe (before.drop most)) (next part)
    | _ => go s (next [])
  | .sleep span next =>
    match p.due with
    | none => some (s.set { p with due := some (now + span) }, {})
    | some due =>
      if due ≤ now then some (s.set { p with process := next (), due := none }, {}) else none
  | .start child held next =>
    let number := firstNumber + s.running.length
    let s := { s with running := s.running ++
      [{ number, process := child (), held
         handling := p.handling.filter (·.2 = .ignored) }] }
    go s (next number)
  | .pipe bs next =>
    go ({ s with nextPipe := s.nextPipe + 1 }.withContents s.nextPipe bs) (next s.nextPipe)
  | .hold held next => some (s.set { p with held, process := next () }, {})
  | .await child interruptible next =>
    match (s.find? child).map (·.fate) with
    | none => go s (next none)
    | some (some fate) => go s (next (some fate))
    | some none => if interruptible && !p.kept.isEmpty then go s (next none) else none
  | .signal target number next =>
    match s.find? target with
    | some t =>
      if t.fate.isSome && target ≠ p.number then go s (next false)
      else some ((s.set { p with process := next true }).deliver target number, {})
    | none => go s (next false)
  | .handle number how next =>
    some (s.set { p with
      handling := (number, how) :: p.handling.filter (·.1 ≠ number), process := next () }, {})
  | .kept next => some (s.set { p with process := next p.kept, kept := [] }, {})
  | .self next => go s (next p.number)
  | .load file next => go s (next (s.files.lookup file))
  | .store file contents next => go (s.withFile file contents) (next ())

/-- A step of the first process that can take one. -/
def step? (now : Millis) (input : Framing.Pipe) (s : System) : Option (System × Exchange) :=
  s.running.findSome? fun p => if p.fate.isSome then none else s.stepOf? now input p

/-- When a process goes on by itself. -/
def nextDue? (s : System) : Option Millis :=
  (s.running.filterMap fun p => if p.fate.isSome then none else p.due).min?

end System

end DebugAdapter.Bench.Shell
