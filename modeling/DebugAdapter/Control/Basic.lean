import DebugAdapter.Control.Drive
import DebugAdapter.Monitor.Debuggee
/-!
# Execution control

Execution control starts interpreters, one after the other, and runs or steps the program of the
present one. Each command is a task. Tasks take turns in the order in which they asked for it, and
only the task whose turn it is drives an interpreter; everything else goes on meanwhile. A start
disposes of the interpreter before it, and lets the program run in a task of its own unless it has
to stop on entry.
-/

namespace DebugAdapter

open Monitor (Refusal StartError Waiter)
open Program (Breakpoints Frame Snapshot)

namespace Control

/-- What somebody wants done. -/
inductive Errand where
  | start (program : String) (stopOnEntry debug : Bool)
  | resume
  | step (granularity : Granularity)
deriving DecidableEq, Repr, Inhabited

/-- An errand, and who waits until it is done. -/
structure Task where
  errand : Errand
  asker : Option Nat := none
deriving DecidableEq, Repr, Inhabited

/-- How far the task has come whose turn it is. -/
inductive Phase where
  /-- It waits for the first status of a new interpreter. -/
  | status (debuggee : Nat) (due : Millis)
  /-- It waits until the compiled code has been fetched, or will not be. -/
  | code (debuggee : Nat)
  /-- It has made an interpreter execute an instruction. -/
  | driving (debuggee : Nat) (stage : Stage) (waiter : Waiter)
deriving DecidableEq, Repr, Inhabited

/-- A turn. -/
structure Turn where
  task : Task
  phase : Phase
deriving DecidableEq, Repr, Inhabited

/-- What can happen. -/
inductive Activity where
  | debuggee (index : Nat) (a : Debuggee.Activity)
  /-- An event of the present interpreter is heard. -/
  | hear
  /-- A task asks for its turn. -/
  | ask (index : Nat)
  /-- The first in the queue gets its turn. -/
  | grant
  /-- The task whose turn it is goes on. -/
  | advance
deriving DecidableEq, Repr

end Control

open Control

/-- Execution control. -/
structure Control where
  config : Monitor.Config
  home : String
  /-- Why no interpreter can be launched, if so. -/
  refusal : Option Refusal := none
  breakpoints : Breakpoints := {}
  memory : Memory := {}
  /-- Every interpreter that has been started. -/
  debuggees : List Debuggee := []
  /-- The present interpreter. -/
  present : Option Nat := none
  /-- Tasks that have not asked for their turn. -/
  tasks : List Task := []
  queue : List Task := []
  turn : Option Turn := none
  /-- What each interpreter was to be started with. -/
  launches : List (List String) := []
  notices : List Notice := []
  /-- Whose errands are done. -/
  done : List Nat := []
deriving Inhabited

namespace Control

/-! ## The present interpreter -/

/-- The present interpreter. -/
def debuggee? (c : Control) : Option Debuggee := c.present.bind (c.debuggees[·]?)

/-- With a change to one interpreter. -/
def modifyDebuggee (c : Control) (i : Nat) (f : Debuggee → Debuggee) : Control :=
  { c with debuggees := c.debuggees.modify i f }

/-- What is known about the program. -/
def snapshot? (c : Control) : Option Snapshot := c.debuggee?.map (·.snapshot)

/-- The line of the current instruction. -/
def currentLine? (c : Control) : Option Int := c.snapshot?.bind (·.currentLine?)

/-- The frames of the program, the innermost first. -/
def frames (c : Control) : List Frame := (c.snapshot?.map (·.frames)).getD []

/-- The local variables. -/
def locals (c : Control) : List Program.Variable := (c.snapshot?.map (·.locals)).getD []

/-- The parameters. -/
def parameters (c : Control) : List Program.Variable := (c.snapshot?.map (·.parameters)).getD []

/-- The columns of a line where a breakpoint may be set. -/
def breakpointColumns : List Int := [0]

/-- With other breakpoints. -/
def withBreakpoints (c : Control) (f : Breakpoints → Breakpoints) : Control :=
  { c with breakpoints := f c.breakpoints }

/-- The name between the marks of a watched register. -/
def watchedName? (expression : String) : Option String :=
  match Text.trimChars expression.toList with
  | '%' :: rest =>
    if rest.getLast? = some '%' then some (String.ofList (rest.dropLast.map Char.toLower)) else none
  | _ => none

/-- A watched register of a program. -/
def watched? (s : Snapshot) (expression : String) : Option String :=
  match watchedName? expression with
  | some "bp" | some "basepointer" => some (toString s.basePointer)
  | some "cp" | some "codepointer" => some (toString s.codePointer)
  | _ => none

/-- A watched register is looked up; any other expression is handed to the interpreter, whose answer
comes as output. -/
def evaluate (c : Control) (expression : String) (context : Option String) :
    Option String × Control :=
  match c.debuggee? with
  | none => (none, c)
  | some d =>
    if context = some "watch" then (watched? d.snapshot expression, c)
    else
      (none, c.modifyDebuggee (c.present.getD 0) fun d =>
        (d.send? Interpreter.evaluateCommand (.string expression)).getD d)

/-- The present interpreter is killed. It stays the present one. -/
def terminate (c : Control) : Control :=
  match c.present with
  | some i => c.modifyDebuggee i Debuggee.dispose
  | none => c

/-- The present interpreter is killed, and nobody listens to it any more. -/
def disposeSession (c : Control) : Control := { c.terminate with present := none }

/-- An errand is given. -/
def request (c : Control) (errand : Errand) (asker : Option Nat) : Control :=
  { c with tasks := c.tasks ++ [{ errand, asker }] }

/-- Whether nothing is being done and nothing is to be done. -/
def isIdle (c : Control) : Bool := c.turn.isNone && c.queue.isEmpty && c.tasks.isEmpty

/-! ## Turns -/

/-- More notices. -/
def notify (c : Control) (notices : List Notice) : Control :=
  { c with notices := c.notices ++ notices }

/-- A task is done. -/
def finish (c : Control) (t : Task) : Control :=
  { c with turn := none, done := c.done ++ t.asker.toList }

/-- A start is done, and the program runs on in a task of its own. -/
def finishRunning (c : Control) (t : Task) : Control :=
  { c.finish t with tasks := c.tasks ++ [{ errand := .resume }] }

/-- A start is done because there is no interpreter to go on with. -/
def fail (c : Control) (t : Task) (e : StartError) : Control :=
  (c.notify [.output .important e.message, .ended]).finish t

/-- What a decision about an interpreter is based on. -/
def view (c : Control) (d : Debuggee) (now : Millis) : View :=
  { breakpoints := c.breakpoints, snapshot := d.snapshot, able := (d.execute? now).isSome }

/-- A decision is carried out. -/
def follow (c : Control) (now : Millis) (t : Task) (i : Nat) (d : Debuggee) (decision : Decision) :
    Control :=
  let c := { c.notify decision.notices with memory := decision.memory }
  match decision.next, d.execute? now with
  | .execute stage, some (waiter, d) =>
    { c.modifyDebuggee i (fun _ => d) with
      turn := some { task := t, phase := .driving i stage waiter } }
  | _, _ => c.finish t

/-- A goal is set for an interpreter. -/
def pursue (c : Control) (now : Millis) (t : Task) (i : Nat) (d : Debuggee) (goal : Goal) :
    Control :=
  c.follow now t i d ((c.view d now).lead c.memory goal)

/-- A goal is set for the present interpreter, if there is one. -/
def pursuePresent (c : Control) (now : Millis) (t : Task) (goal : Goal) : Control :=
  match c.present, c.debuggee? with
  | some i, some d => c.pursue now t i d goal
  | _, _ => c.finish t

/-- An interpreter is started on a program in the place of the present one. -/
def launch (c : Control) (now : Millis) (t : Task) (program : String) (debug : Bool) : Control :=
  let c := { c.disposeSession with
    memory := { debug }
    launches := c.launches ++ [c.config.argumentsFor (Path.launched c.home program)] }
  match c.refusal with
  | some reason => c.fail t (.refused reason)
  | none =>
    { c with
      debuggees := c.debuggees ++ [.start c.config now]
      turn := some
        { task := t, phase := .status c.debuggees.length (now + c.config.statusTimeout) } }

/-- A task gets its turn. -/
def begin (c : Control) (now : Millis) (t : Task) : Control :=
  match t.errand with
  | .start program _ debug => c.launch now t program debug
  | .resume => c.pursuePresent now t .run
  | .step granularity => c.pursuePresent now t (.step granularity .step)

/-- An interpreter has reported its first status and is now the present one. Breakpoints and line
steps need the compiled code. -/
def install (c : Control) (t : Task) (i : Nat) : Control :=
  let c := { c with present := some i }
  match t.errand with
  | .start _ _ true => { c with turn := some { task := t, phase := .code i } }
  | _ => c.finishRunning t

/-- The compiled code has been fetched, or will not be. -/
def enter (c : Control) (now : Millis) (t : Task) (i : Nat) (d : Debuggee) : Control :=
  match t.errand with
  | .start _ true _ => c.pursue now t i d (.step .instruction .entry)
  | _ => c.finishRunning t

/-- The task whose turn it is goes on, if what it waits for has happened. -/
def advance? (c : Control) (now : Millis) : Option Control := do
  let turn ← c.turn
  match turn.phase with
  | .status i due =>
    let d ← c.debuggees[i]?
    if 0 < d.monitor.refreshed then some (c.install turn.task i)
    else if due ≤ now then
      some ((c.modifyDebuggee i Debuggee.dispose).fail turn.task (.silent c.config.statusTimeout))
    else none
  | .code i =>
    let d ← c.debuggees[i]?
    if d.monitor.codeSettled then some (c.enter now turn.task i d) else none
  | .driving i stage waiter =>
    let d ← c.debuggees[i]?
    if d.monitor.hasRefreshed waiter then
      some (c.follow now turn.task i d ((c.view d now).after c.memory true stage))
    else if waiter.due ≤ now then
      some (c.follow now turn.task i d ((c.view d now).after c.memory false stage))
    else none

/-! ## Listening -/

/-- What an event of the present interpreter leads to. -/
def hear (c : Control) (e : Monitor.Event) : Control :=
  match e with
  | .console message severity _ => c.notify [.output (.ofSeverity severity) message]
  | .stdout text => c.notify [.output .stdout text]
  | .stderr text => c.notify [.output .stderr text]
  | .failed text => c.notify [.output .important text]
  | .done => c.terminate
  | .closed _ => c.notify [.ended]
  | .spawned | .message .. | .unknown _ => c

/-! ## Activities -/

/-- One activity, if it is possible. -/
def perform? (c : Control) (now : Millis) : Activity → Option Control
  | .debuggee i a => do
    let d ← c.debuggees[i]?
    let d ← d.perform? now a
    return c.modifyDebuggee i fun _ => d
  | .hear => do
    let i ← c.present
    let d ← c.debuggees[i]?
    let (event, d) ← d.hear?
    return (c.modifyDebuggee i fun _ => d).hear event
  | .ask i => do
    let t ← c.tasks[i]?
    return { c with tasks := c.tasks.eraseIdx i, queue := c.queue ++ [t] }
  | .grant =>
    match c.turn, c.queue with
    | none, t :: queue => some ({ c with queue }.begin now t)
    | _, _ => none
  | .advance => c.advance? now

/-- When the next timer fires. -/
def nextDue? (c : Control) : Option Millis :=
  let turn :=
    match c.turn.map (·.phase) with
    | some (.status _ due) => some due
    | some (.driving _ _ waiter) => some waiter.due
    | _ => none
  (c.debuggees.filterMap Debuggee.nextDue? ++ turn.toList).min?

end Control

end DebugAdapter
