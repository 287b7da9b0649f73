import DebugAdapter.Bench.Cast
import DebugAdapter.Session.Basic
/-!
# A session on a bench

A session whose interpreters are scripted ones, and whose editor reads whatever it is sent.
-/

namespace DebugAdapter.Bench

open Interpreter (ScriptedInterpreter)

/-- A session, its interpreters, and what the editor has read. -/
structure SessionBench where
  now : Millis := 0
  session : Session
  cast : Cast
  /-- What the editor has received and not understood yet. -/
  buffer : Bytes := []
  messages : List Json := []

namespace SessionBench

/-- The control of the session. -/
def control (b : SessionBench) : Control := b.session.handler.control

/-- With a change to the control of the session. -/
def withControl (b : SessionBench) (f : Control → Control) : SessionBench :=
  { b with session := { b.session with handler := b.session.handler.withControl f } }

/-- An activity of the session. A new debuggee gets an interpreter. -/
def perform? (b : SessionBench) (a : Session.Activity) : Option SessionBench :=
  (b.session.perform? b.now a).map fun session =>
    let launched := session.handler.control.debuggees.length
    let cast := if b.cast.interpreters.length < launched then b.cast.enter else b.cast
    { b with session, cast }

/-- An interpreter reads. -/
def read? (b : SessionBench) (i : Nat) : Option SessionBench := do
  let d ← b.control.debuggees[i]?
  let (cast, d) ← b.cast.read? i d
  return { b.withControl (·.modifyDebuggee i fun _ => d) with cast }

/-- The editor reads a message. -/
def receive? (b : SessionBench) : Option SessionBench :=
  let received := b.buffer ++ b.session.outgoing.octets
  let t := Framing.Headed.nextStrict Decode.json received
  let outgoing := { b.session.outgoing with octets := [] }
  match t.item with
  | .ok (some m) =>
    some { b with
      session := { b.session with outgoing }, buffer := t.buffer, messages := b.messages ++ [m] }
  | _ => none

/-- Some activities of one debuggee, the first that is possible. -/
def performOn? (b : SessionBench) (activities : List Debuggee.Activity) (i : Nat) :
    Option SessionBench :=
  activities.findSome? fun a => b.perform? (.control (.debuggee i a))

/-- The next move: debuggees first, then the session, then the tasks, the timers last. -/
def move? (b : SessionBench) : Option SessionBench :=
  let debuggees := List.range b.control.debuggees.length
  let launches := List.range b.session.handler.launches.length
  debuggees.findSome? (fun i => b.performOn? promptActivities i <|> b.read? i)
    <|> b.perform? .notice <|> b.perform? .read <|> b.perform? .write <|> b.receive?
    <|> launches.findSome? (fun i => b.perform? (.resume i) <|> b.perform? (.complete i))
    <|> [Control.Activity.ask 0, .grant, .advance, .hear].findSome?
      (fun a => b.perform? (.control a))
    <|> b.perform? .discard
    <|> debuggees.findSome? (b.performOn? timedActivities)

/-- The bench with its clock. -/
def clocked : Clocked SessionBench :=
  { now := (·.now), setNow := fun b now => { b with now }, move?
    nextDue? := (·.session.nextDue?) }

/-- What must not change any more for the bench to be settled. -/
def view (b : SessionBench) : Option Program.Snapshot × List Nat :=
  (b.control.snapshot?,
    [b.messages.length, b.control.launches.length, b.control.done.length, b.cast.notable.length,
      b.cast.steps])

/-- The bench as soon as it has settled. -/
def settle (b : SessionBench) : SessionBench := clocked.settle view b

/-- The editor writes octets. -/
def send (b : SessionBench) (bs : Bytes) : SessionBench :=
  let incoming := (b.session.incoming.write? bs).getD b.session.incoming
  { b with session := { b.session with incoming } }

/-- The editor closes its stream. -/
def hangUp (b : SessionBench) : SessionBench :=
  { b with session :=
      { b.session with incoming := { b.session.incoming with writerGone := true } } }

/-- The latest interpreter does something. -/
def act (b : SessionBench)
    (f : ScriptedInterpreter → Framing.Line → ScriptedInterpreter × Framing.Line) : SessionBench :=
  let i := b.control.debuggees.length - 1
  match b.control.debuggees[i]? with
  | some d =>
    let (cast, d) := b.cast.act i d f
    { b.withControl (·.modifyDebuggee i fun _ => d) with cast }
  | none => b

end SessionBench

end DebugAdapter.Bench
