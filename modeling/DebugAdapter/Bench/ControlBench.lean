import DebugAdapter.Bench.Cast
import DebugAdapter.Control.Basic
/-!
# Execution control on a bench

Execution control whose interpreters are scripted ones.
-/

namespace DebugAdapter.Bench

open Interpreter (ScriptedInterpreter)

/-- Execution control and its interpreters. -/
structure ControlBench where
  now : Millis := 0
  control : Control
  cast : Cast
  /-- How many errands have been given. -/
  errands : Nat := 0

namespace ControlBench

/-- An activity of execution control. A new debuggee gets an interpreter. -/
def perform? (b : ControlBench) (a : Control.Activity) : Option ControlBench :=
  (b.control.perform? b.now a).map fun control =>
    let cast :=
      if b.cast.interpreters.length < control.debuggees.length then b.cast.enter else b.cast
    { b with control, cast }

/-- An interpreter reads. -/
def read? (b : ControlBench) (i : Nat) : Option ControlBench := do
  let d ← b.control.debuggees[i]?
  let (cast, d) ← b.cast.read? i d
  return { b with cast, control := b.control.modifyDebuggee i fun _ => d }

/-- Some activities of one debuggee, the first that is possible. -/
def performOn? (b : ControlBench) (activities : List Debuggee.Activity) (i : Nat) :
    Option ControlBench :=
  activities.findSome? fun a => b.perform? (.debuggee i a)

/-- The next move: what needs no timer comes first, the tasks then, the timers last. -/
def move? (b : ControlBench) : Option ControlBench :=
  let debuggees := List.range b.control.debuggees.length
  debuggees.findSome? (fun i => b.performOn? promptActivities i <|> b.read? i)
    <|> [.ask 0, .grant, .advance, .hear].findSome? b.perform?
    <|> debuggees.findSome? (b.performOn? timedActivities)

/-- The bench with its clock. -/
def clocked : Clocked ControlBench :=
  { now := (·.now), setNow := fun b now => { b with now }, move?
    nextDue? := (·.control.nextDue?) }

/-- What must not change any more for the bench to be settled. -/
def view (b : ControlBench) : Option Program.Snapshot × List Nat :=
  (b.control.snapshot?,
    [b.control.notices.length, b.control.done.length, b.control.launches.length,
      b.cast.notable.length, b.cast.steps])

/-- The bench as soon as it has settled. -/
def settle (b : ControlBench) : ControlBench := clocked.settle view b

/-- An errand is given. -/
def request (b : ControlBench) (errand : Control.Errand) : ControlBench :=
  { b with control := b.control.request errand (some b.errands), errands := b.errands + 1 }

/-- How many errands are not done. -/
def busy (b : ControlBench) : Nat := b.errands - b.control.done.length

/-- The latest interpreter does something. -/
def act (b : ControlBench)
    (f : ScriptedInterpreter → Framing.Line → ScriptedInterpreter × Framing.Line) : ControlBench :=
  let i := b.control.debuggees.length - 1
  match b.control.debuggees[i]? with
  | some d =>
    let (cast, d) := b.cast.act i d f
    { b with cast, control := b.control.modifyDebuggee i fun _ => d }
  | none => b

end ControlBench

end DebugAdapter.Bench
