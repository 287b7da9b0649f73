import DebugAdapter.Control.Notice
import DebugAdapter.Program.Breakpoints
import DebugAdapter.Program.Snapshot
/-!
# Driving a program

Running on and stepping both come down to executing single instructions and looking at the program
after each of them. This is the part that decides: from where the program stands, and how the last
instruction went, to what comes next. A command first steps through the interpreter's own set-up,
then does its own part, and last steps through the interpreter's tear-down.
-/

namespace DebugAdapter.Control

open Program (Breakpoints Location Snapshot)

/-- How far a step goes. -/
inductive Granularity where
  | line
  | instruction
deriving DecidableEq, Repr, Inhabited

/-- What a command is to achieve. -/
inductive Goal where
  /-- To run until a breakpoint is hit or the program ends. -/
  | run
  /-- To go on by one line or one instruction, and to report the stop. -/
  | step (granularity : Granularity) (reason : StopReason)
deriving DecidableEq, Repr, Inhabited

/-- How far a command has come. -/
inductive Stage where
  /-- Before the command's own part. -/
  | leading (goal : Goal)
  /-- Running. Breakpoints on the line that is being left, and the breakpoint on the instruction
  that is skipped, do not stop the program. -/
  | running (leaving skipped : Option Int)
  /-- Stepping: from a line, or by a single instruction. -/
  | stepping (reason : StopReason) (origin : Option Int)
  /-- After the command's own part. -/
  | trailing
deriving DecidableEq, Repr, Inhabited

/-- What execution control remembers from one command to the next. -/
structure Memory where
  /-- Whether breakpoints count. -/
  debug : Bool := false
  /-- Where the program last stopped. -/
  resumeFrom : Option Location := none
deriving DecidableEq, Repr, Inhabited

/-- What comes next. -/
inductive Next where
  /-- One instruction is executed, and then this stage goes on. -/
  | execute (stage : Stage)
  | finished
deriving DecidableEq, Repr, Inhabited

/-- A decision. -/
structure Decision where
  memory : Memory
  notices : List Notice
  next : Next
deriving DecidableEq, Repr, Inhabited

/-- What a decision is based on. -/
structure View where
  breakpoints : Breakpoints
  snapshot : Snapshot
  /-- Whether the interpreter can be told to execute an instruction. -/
  able : Bool

namespace View

/-- The tear-down is stepped through as long as it lasts. -/
def trail (v : View) : Next :=
  if v.snapshot.state.isBootstrap && v.able then .execute .trailing else .finished

/-- Why a running program stops here, if it does. -/
def stopReason? (v : View) (debug : Bool) (leaving skipped : Option Int) : Option StopReason :=
  let here := v.snapshot.location
  if !debug then none
  else if skipped ≠ some here.codePointer && v.breakpoints.stopsAtInstruction here.codePointer then
    some .instructionBreakpoint
  else if leaving.isNone && v.breakpoints.stopsAtLine here.line then some .breakpoint
  else none

/-- The line that is still being left: none once the program is on another one. -/
def stillLeaving (v : View) (leaving : Option Int) : Option Int :=
  if v.snapshot.currentLine? = leaving then leaving else none

/-- A running program stops or executes the next instruction. -/
def run (v : View) (m : Memory) (leaving skipped : Option Int) : Decision :=
  if v.snapshot.state.isRunningCode then
    let leaving := v.stillLeaving leaving
    match v.stopReason? m.debug leaving skipped with
    | some reason =>
      { memory := { m with resumeFrom := some v.snapshot.location }
        notices := [.stopped reason]
        next := v.trail }
    | none =>
      { memory := m
        notices := []
        next := if v.able then .execute (.running leaving none) else v.trail }
  else { memory := m, notices := [], next := v.trail }

/-- A step is over. -/
def arrive (v : View) (m : Memory) (reason : StopReason) : Decision :=
  { memory := { m with resumeFrom := some v.snapshot.location }
    notices := [.stopped reason]
    next := v.trail }

/-- Where a step starts from. A place without a line counts as line -1. -/
def origin (v : View) : Granularity → Option Int
  | .line => some (v.snapshot.currentLine?.getD (-1))
  | .instruction => none

/-- The command's own part begins. A running program starts from where it last stopped. -/
def begin (v : View) (m : Memory) : Goal → Decision
  | .run =>
    v.run { m with resumeFrom := none } (m.resumeFrom.bind (·.line))
      (m.resumeFrom.map (·.codePointer))
  | .step granularity reason =>
    if v.able then
      { memory := m, notices := [], next := .execute (.stepping reason (v.origin granularity)) }
    else v.arrive m reason

/-- The set-up is stepped through before the command's own part begins. -/
def lead (v : View) (m : Memory) (goal : Goal) : Decision :=
  if v.snapshot.state.isBootstrap && v.able then
    { memory := m, notices := [], next := .execute (.leading goal) }
  else v.begin m goal

/-- Whether a step from a line goes on: the program is still on that line. -/
def staysOn (v : View) (origin : Option Int) : Bool :=
  match origin with
  | some line => v.snapshot.state.isRunningCode && v.snapshot.currentLine? == some line
  | none => false

/-- A stage goes on after an instruction was executed, or was not. -/
def after (v : View) (m : Memory) (executed : Bool) : Stage → Decision
  | .leading goal => if executed then v.lead m goal else v.begin m goal
  | .running leaving skipped =>
    if executed then v.run m leaving skipped else { memory := m, notices := [], next := v.trail }
  | .stepping reason origin =>
    if executed && v.staysOn origin && v.able then
      { memory := m, notices := [], next := .execute (.stepping reason origin) }
    else v.arrive m reason
  | .trailing =>
    { memory := m, notices := [], next := if executed then v.trail else .finished }

end View

end DebugAdapter.Control
