import DebugAdapter.Bench.Clock
import DebugAdapter.Interpreter.Scripted
import DebugAdapter.Monitor.Debuggee
/-!
# Interpreters for benches

What the benches of the monitor, of execution control and of a session have in common: scripted
interpreters, one for each debuggee, and the order in which the moves of a debuggee are tried.
-/

namespace DebugAdapter.Bench

open Interpreter (Message Script ScriptedInterpreter)

/-- The moves of a debuggee that need no timer, in the order in which they are tried. -/
def promptActivities : List Debuggee.Activity :=
  [.link .command, .link .read, .forward, .settle 0]

/-- The moves of a debuggee that wait for a timer. -/
def timedActivities : List Debuggee.Activity := [.link .flush, .link .expire, .poll, .fetch]

/-- The interpreters of a bench, each with the number of its debuggee as its place. -/
structure Cast where
  /-- What an interpreter starts with. -/
  script : Script
  delimiting : Framing.Delimiting := {}
  /-- Whether the next interpreter goes on where the last one stood. -/
  lasting : Bool := false
  interpreters : List ScriptedInterpreter := []
deriving Inhabited

namespace Cast

/-- The script as it stands. -/
def presentScript (c : Cast) : Script :=
  match c.interpreters.getLast? with
  | some s => s.script
  | none => c.script

/-- One more interpreter. -/
def enter (c : Cast) : Cast :=
  let script := if c.lasting then c.presentScript else c.script
  { c with interpreters := c.interpreters ++ [.start script c.delimiting] }

/-- With other answers from now on. -/
def change (c : Cast) (changes : List (String × Option Json)) : Cast :=
  match c.interpreters.getLast? with
  | some s =>
    { c with interpreters :=
        c.interpreters.dropLast ++ [{ s with script := s.script.withChanges changes }] }
  | none => { c with script := c.script.withChanges changes }

/-- The messages worth noting that the present interpreter has read, and those before it if it goes
on where they stood. -/
def notable (c : Cast) : List Message :=
  if c.lasting then c.interpreters.flatMap (·.noted)
  else (c.interpreters.getLast?.map (·.noted)).getD []

/-- How many steps the present interpreter has been told to make. -/
def steps (c : Cast) : Nat := c.presentScript.steps

/-- An interpreter does something with the line of its debuggee. -/
def act (c : Cast) (i : Nat) (d : Debuggee)
    (f : ScriptedInterpreter → Framing.Line → ScriptedInterpreter × Framing.Line) :
    Cast × Debuggee :=
  match c.interpreters[i]? with
  | some s =>
    let (s, line) := f s d.link.line
    ({ c with interpreters := c.interpreters.set i s }, { d with link := { d.link with line } })
  | none => (c, d)

/-- An interpreter reads from the line of its debuggee, if there is anything to read. -/
def read? (c : Cast) (i : Nat) (d : Debuggee) : Option (Cast × Debuggee) := do
  let s ← c.interpreters[i]?
  let (s, line) ← s.read? d.link.line
  return ({ c with interpreters := c.interpreters.set i s },
    { d with link := { d.link with line } })

end Cast

end DebugAdapter.Bench
