import DebugAdapter.Bench.Cast
/-!
# A monitor on a bench

A debuggee whose interpreter is a scripted one, with everybody who waits for something.
-/

namespace DebugAdapter.Bench

open Interpreter (ScriptedInterpreter)
open Monitor (ExecuteError Refusal StartError Waiter)

/-- What has come to an end. -/
inductive Outcome where
  | started
  | startFailed (e : StartError)
  | executed
  | executeFailed (e : ExecuteError)
  | codeSettled
deriving DecidableEq, Repr

/-- A monitor, its interpreter, and what has been seen of them. -/
structure MonitorBench where
  now : Millis := 0
  config : Monitor.Config
  cast : Cast
  launches : List (List String) := []
  debuggee : Option Debuggee := none
  /-- Until when the first status is waited for. -/
  starting : Option Millis := none
  /-- Whether the first status has come. -/
  ready : Bool := false
  waiters : List Waiter := []
  /-- How many wait for the compiled code. -/
  codeWaiters : Nat := 0
  outcomes : List Outcome := []
  events : List Monitor.Event := []

namespace MonitorBench

/-- More outcomes. -/
def note (b : MonitorBench) (outcomes : List Outcome) : MonitorBench :=
  { b with outcomes := b.outcomes ++ outcomes }

/-- An interpreter is started, unless that is refused. -/
def start (config : Monitor.Config) (cast : Cast) (refusal : Option Refusal) (program : String) :
    MonitorBench :=
  let b : MonitorBench := { config, cast, launches := [config.argumentsFor program] }
  match refusal with
  | some reason => b.note [.startFailed (.refused reason)]
  | none =>
    { b with
      cast := b.cast.enter
      debuggee := some (.start config b.now)
      starting := some (b.now + config.statusTimeout) }

/-- With another debuggee. -/
def withDebuggee (b : MonitorBench) (d : Debuggee) : MonitorBench := { b with debuggee := some d }

/-- An activity of the debuggee. -/
def perform? (b : MonitorBench) (a : Debuggee.Activity) : Option MonitorBench :=
  (b.debuggee.bind (·.perform? b.now a)).map b.withDebuggee

/-- The interpreter reads. -/
def read? (b : MonitorBench) : Option MonitorBench := do
  let d ← b.debuggee
  let (cast, d) ← b.cast.read? 0 d
  return { b.withDebuggee d with cast }

/-- The start comes to an end. -/
def startMove? (b : MonitorBench) : Option MonitorBench := do
  let d ← b.debuggee
  let due ← b.starting
  if 0 < d.monitor.refreshed then
    return { b with starting := none, ready := true }.note [.started]
  else if due ≤ b.now then
    return ({ b with starting := none }.withDebuggee d.dispose).note
      [.startFailed (.silent b.config.statusTimeout)]
  else none

/-- How a wait has ended, if it has. -/
def ended? (d : Debuggee) (now : Millis) (w : Waiter) : Option Outcome :=
  if d.monitor.hasRefreshed w then some .executed
  else if w.due ≤ now then some (.executeFailed (.timeout d.monitor.config.statusTimeout))
  else none

/-- The waits that have ended are over. -/
def waitMove? (b : MonitorBench) : Option MonitorBench := do
  let d ← b.debuggee
  let outcomes := b.waiters.filterMap (ended? d b.now)
  if outcomes.isEmpty then none
  else
    return { b with waiters := b.waiters.filter fun w => (ended? d b.now w).isNone }.note outcomes

/-- The waits for the compiled code are over. -/
def codeMove? (b : MonitorBench) : Option MonitorBench := do
  let d ← b.debuggee
  if b.codeWaiters ≠ 0 && d.monitor.codeSettled then
    return { b with codeWaiters := 0 }.note (List.replicate b.codeWaiters .codeSettled)
  else none

/-- The next event is heard. -/
def hearMove? (b : MonitorBench) : Option MonitorBench := do
  let d ← b.debuggee
  let (event, d) ← d.hear?
  return { b.withDebuggee d with events := b.events ++ [event] }

/-- The next move. -/
def move? (b : MonitorBench) : Option MonitorBench :=
  promptActivities.findSome? b.perform? <|> b.read? <|> b.startMove? <|> b.waitMove?
    <|> b.codeMove? <|> b.hearMove? <|> timedActivities.findSome? b.perform?

/-- When the next timer fires. -/
def nextDue? (b : MonitorBench) : Option Millis :=
  ((b.debuggee.bind (·.nextDue?)).toList ++ b.starting.toList ++ b.waiters.map (·.due)).min?

/-- The bench with its clock. -/
def clocked : Clocked MonitorBench :=
  { now := (·.now), setNow := fun b now => { b with now }, move?, nextDue? }

/-- What must not change any more for the bench to be settled. -/
def view (b : MonitorBench) : Option Program.Snapshot × List Nat :=
  (b.debuggee.map (·.snapshot),
    [b.outcomes.length, b.events.length, b.cast.notable.length, b.cast.steps, b.waiters.length])

/-- The bench as soon as it has settled. -/
def settle (b : MonitorBench) : MonitorBench := clocked.settle view b

/-- The debuggee, once it has started. -/
def started? (b : MonitorBench) : Option Debuggee := if b.ready then b.debuggee else none

/-- An instruction is executed. -/
def execute (b : MonitorBench) (d : Debuggee) : MonitorBench :=
  match d.execute? b.now with
  | some (w, d) => { b.withDebuggee d with waiters := b.waiters ++ [w] }
  | none => b.note [.executeFailed .notRunning]

/-- The interpreter does something. -/
def act (b : MonitorBench)
    (f : ScriptedInterpreter → Framing.Line → ScriptedInterpreter × Framing.Line) : MonitorBench :=
  match b.debuggee with
  | some d =>
    let (cast, d) := b.cast.act 0 d f
    { b.withDebuggee d with cast }
  | none => b

end MonitorBench

end DebugAdapter.Bench
