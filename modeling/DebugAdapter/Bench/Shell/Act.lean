import DebugAdapter.Bench.Shell.Process
import DebugAdapter.Bench.Shell.Reader
/-!
# The state of a shell

What a shell knows while it carries scripts out. An act of the shell is given the state and what
comes after it, and makes a process of them.
-/

namespace DebugAdapter.Bench.Shell

/-- Why the rest of a script is passed over. -/
inductive Skip where
  /-- So many loops are left, or begun anew after one less has been left. -/
  | leaving (loops : Nat)
  | again (loops : Nat)
  /-- A function is left. -/
  | returning
deriving DecidableEq, Repr, Inhabited

/-- The state of a shell. -/
structure State where
  /-- The name under which it complains. -/
  name : String
  /-- The number of the process that the shell was started as. -/
  number : Nat
  values : List (String × String) := []
  exported : List String := []
  readOnly : List String := []
  arguments : List String := []
  functions : List (String × Script) := []
  /-- The status of the last command. -/
  status : Nat := 0
  /-- The status of the last script whose output has been taken. -/
  outputStatus : Option Nat := none
  /-- Where the open streams lead, by their numbers. -/
  streams : List (Nat × Opened) := [(0, .input), (1, .output), (2, .errors)]
  /-- The streams before the redirections that will be undone. -/
  saved : List (List (Nat × Opened)) := []
  documents : List (Nat × Word) := []
  nextDocument : Nat := 0
  /-- What is done about signals; zero is the end of the shell. -/
  traps : List (Nat × String) := []
  options : List Char := []
  line : Nat := 1
  /-- The command that complains. -/
  command : Option String := none
  skip : Option Skip := none
  /-- How many loops and functions are open. -/
  loops : Nat := 0
  calls : Nat := 0
  /-- The values that will be put back at the ends of the open functions. -/
  hidden : List (List (String × Option String)) := []
  /-- The process that was started last beside the shell, and all those. -/
  beside : Option Nat := none
  jobs : List Nat := []
  directory : String := "/"
  /-- Where the next option stands in the argument that is looked at. -/
  optionPlace : Nat := 0
  /-- The rights that new files do not get, in octal. -/
  mask : String := "0022"
deriving Inhabited

namespace State

/-- Whether an option is set. -/
def has (s : State) (option : Char) : Bool := s.options.contains option

/-- The value of a parameter with a name. -/
def value? (s : State) (name : String) : Option String := s.values.lookup name

/-- A parameter gets a value. -/
def assign (s : State) (name value : String) : State :=
  { s with
    values := (name, value) :: s.values.filter (·.1 ≠ name)
    exported := if s.has 'a' then name :: s.exported else s.exported }

/-- A parameter loses its value. -/
def unassign (s : State) (name : String) : State :=
  { s with
    values := s.values.filter (·.1 ≠ name)
    exported := s.exported.filter (· ≠ name) }

/-- Where a stream leads. -/
def stream? (s : State) (n : Nat) : Option Opened := s.streams.lookup n

/-- A stream leads somewhere else, or nowhere. -/
def withStream (s : State) (n : Nat) (o : Option Opened) : State :=
  { s with streams := (o.map fun o => (n, o)).toList ++ s.streams.filter (·.1 ≠ n) }

/-- The streams that the shell holds. -/
def held (s : State) : List Opened := (s.streams :: s.saved).flatten.map (·.2)

/-- The parameters that other programs get to know. -/
def environment (s : State) : List (String × String) :=
  (s.values.filter fun v => s.exported.contains v.1).reverse

end State

/-- An act of a shell. -/
def Act (α : Type) : Type := State → (α → State → Process) → Process

namespace Act

instance : Monad Act where
  pure a := fun s next => next a s
  bind x f := fun s next => x s fun a s => f a s next

/-- The state. -/
def state : Act State := fun s next => next s s

/-- The state changes. -/
def change (f : State → State) : Act Unit := fun s next => next () (f s)

/-- Octets are written to a stream. -/
def write (stream : Nat) (bs : Bytes) : Act Delivery := fun s next =>
  match s.stream? stream with
  | none => next .refused s
  | some o => if bs.isEmpty then next .written s else .write o bs fun d => next d s

/-- The system gets to know which streams the shell holds. -/
def hold : Act Unit := fun s next => .hold s.held fun _ => next () s

/-- Something is done while the shell holds more than its streams. -/
def holding {α : Type} (more : List Opened) (act : Act α) : Act α := do
  let before := (← state).saved
  change fun s => { s with saved := more.map (fun o => (0, o)) :: before }
  hold
  let a ← act
  change fun s => { s with saved := before }
  hold
  return a

/-- A process is started with the streams that it holds. -/
def start (child : Unit → Process) (held : List Opened) : Act Nat := fun s next =>
  .start child held fun n => next n s

/-- The end of a process is awaited. -/
def await (child : Nat) (interruptible : Bool) : Act (Option Fate) := fun s next =>
  .await child interruptible fun f => next f s

/-- A pipe is made. -/
def pipe (bs : Bytes) : Act Nat := fun s next => .pipe bs fun n => next n s

/-- Octets are read. -/
def read (source : Opened) (most : Nat) : Act Bytes := fun s next =>
  .read source most fun bs => next bs s

/-- All octets up to the end are read; each round reads some, and there are at most `fuel`
rounds. -/
def readAll (source : Opened) : Nat → Bytes → Act Bytes
  | 0, seen => pure seen
  | fuel + 1, seen => do
    let bs ← read source 65536
    if bs.isEmpty then return seen
    readAll source fuel (seen ++ bs)

/-- A signal is sent. -/
def signal (target number : Nat) : Act Bool := fun s next =>
  .signal target number fun ok => next ok s

/-- It is laid down what is done about a signal. -/
def handle (number : Nat) (how : Handling) : Act Unit := fun s next =>
  .handle number how fun _ => next () s

/-- The signals that have been kept. -/
def kept : Act (List Nat) := fun s next => .kept fun ns => next ns s

/-- The number of the process. -/
def self : Act Nat := fun s next => .self fun n => next n s

/-- A file under one name, however it is written. -/
def fileKey : List Char → List Char
  | '.' :: '/' :: rest => fileKey rest
  | cs => cs

/-- What a file holds. -/
def load (file : String) : Act (Option Bytes) := fun s next =>
  .load (String.ofList (fileKey file.toList)) fun bs => next bs s

/-- A file gets new contents, or is removed. -/
def store (file : String) (contents : Option Bytes) : Act Unit := fun s next =>
  .store (String.ofList (fileKey file.toList)) contents fun _ => next () s

/-- The process ends here. -/
def ending {α : Type} (status : Nat) : Act α := fun _ _ => .ended status

/-- A line is written to the complaints. -/
def mutter (text : String) : Act Unit := do
  let _ ← write 2 (octetsOf (text ++ "\n"))

/-- A complaint of the shell, or of the command that it carries out. -/
def complainAt (line : Nat) (text : String) : Act Unit := do
  let s ← state
  let command :=
    match s.command with
    | some c => c ++ ": "
    | none => ""
  mutter (s.name ++ ": " ++ toString line ++ ": " ++ command ++ text)

/-- A complaint on the present line. -/
def complain (text : String) : Act Unit := do complainAt (← state).line text

/-- Something is done with another command in the complaints. -/
def under {α : Type} (command : Option String) (act : Act α) : Act α := do
  let before := (← state).command
  change fun s => { s with command }
  let a ← act
  change fun s => { s with command := before }
  return a

end Act

/-- How scripts are carried out and a shell ended. -/
structure Runner where
  /-- A script is carried out. Its failure does not matter if it is `tested`; if it is `last`, the
  shell has nothing to do after it. -/
  run : (tested last : Bool) → Script → Act Nat
  /-- The shell ends. -/
  leave : Nat → State → Process

namespace Runner

/-- The shell ends here. -/
def stop {α : Type} (r : Runner) (status : Nat) : Act α := fun s _ => r.leave status s

/-- The shell complains and ends. -/
def fail {α : Type} (r : Runner) (text : String) : Act α := do
  Act.complain text
  r.stop 2

end Runner

end DebugAdapter.Bench.Shell
