import DebugAdapter.Bench.Clock
import DebugAdapter.Bench.Shell.Child
import DebugAdapter.Channel.Link
/-!
# A channel to a child process on a bench

A channel whose interpreter is a child process that runs a script. The bench asks one thing at most
and, if it wants to, stops the interpreter when that has been answered.
-/

namespace DebugAdapter.Bench

open Channel (Config Effect Link Move RequestError)
open Shell (Exchange System)

/-- A channel, its child process, and what has been seen of them. -/
structure ProcessBench where
  now : Millis := 0
  link : Link Unit
  child : System
  /-- Whether an answer is waited for. -/
  asking : Bool := false
  /-- Whether the interpreter is to be stopped. -/
  stopping : Bool := false
  reply : Option (Except RequestError Json) := none
  events : List Channel.Event := [.spawned]

namespace ProcessBench

/-- How long the bench waits for an answer. -/
def patience : Millis := 3000

/-- How long the bench watches. -/
def horizon : Millis := 600000

/-- A channel to a child process. -/
def start (config : Config) (child : System) : ProcessBench :=
  { link := .overProcess config, child }

/-- A message is queued. -/
def send (b : ProcessBench) (type : String) (data : Json) : ProcessBench :=
  { b with link := (b.link.send? (.send type data none)).getD b.link }

/-- A question is asked. -/
def request (b : ProcessBench) (type : String) : ProcessBench :=
  match b.link.send? (.request () type .null (some patience)) with
  | some link => { b with link, asking := true }
  | none => { b with reply := some (.error .closed) }

/-- What the effects show and do. -/
def note (b : ProcessBench) (effects : List (Effect Unit)) : ProcessBench :=
  effects.foldl (fun (b : ProcessBench) e =>
    match e with
    | .emit event => { b with events := b.events ++ [event] }
    | .complete _ result => { b with reply := some result, asking := false }
    | .kill => { b with child := b.child.kill }
    | .write _ => b) b

/-- A move of the link. -/
def linkMove? (b : ProcessBench) (m : Move) : Option ProcessBench :=
  (b.link.perform? b.now m).map fun (link, effects) => { b with link }.note effects

/-- The pipes as the child processes leave them: the output ends when no process can write to it any
more, which may be after the end of the first one. -/
def release (b : ProcessBench) : ProcessBench :=
  let l := b.link
  let fate := b.child.fate
  let inbound := l.line.inbound
  let outbound := l.line.outbound
  { b with link := { l with
      line :=
        { inbound := { inbound with writerGone := inbound.writerGone || !b.child.holds .output }
          outbound := { outbound with readerGone := outbound.readerGone || fate.isSome } }
      fate := l.fate.or (fate.map Shell.Fate.code) } }

/-- What a step of the child processes reads and writes. -/
def exchange (b : ProcessBench) (e : Exchange) : ProcessBench :=
  let l := b.link
  { b with link := { l with
      line :=
        { inbound := (l.line.inbound.write? e.output).getD l.line.inbound
          outbound := { l.line.outbound with octets := l.line.outbound.octets.drop e.used } }
      complaints := (l.complaints.write? e.errors).getD l.complaints } }

/-- A step of a child process. -/
def childMove? (b : ProcessBench) : Option ProcessBench :=
  (b.child.step? b.now b.link.line.outbound).map fun (child, e) =>
    ({ b with child }.exchange e).release

/-- The interpreter is stopped. -/
def stop? (b : ProcessBench) : Option ProcessBench :=
  if b.stopping && !b.asking then
    some { b with stopping := false, link := (b.link.send? .stop).getD b.link }
  else none

/-- The next move: what the holder wants first, then what has arrived, then the child, the timers
last. -/
def move? (b : ProcessBench) : Option ProcessBench :=
  b.stop? <|> b.linkMove? .command <|> b.linkMove? .read <|> b.linkMove? .complain
    <|> b.childMove? <|> b.linkMove? .reap <|> b.linkMove? .flush <|> b.linkMove? .expire

/-- The bench with its clock. -/
def clocked : Clocked ProcessBench :=
  { now := (·.now), setNow := fun b now => { b with now }, move?
    nextDue? := fun b => (b.link.nextDue?.toList ++ b.child.nextDue?.toList).min? }

/-- The bench when everything is over. -/
def finish (b : ProcessBench) : ProcessBench := clocked.runFor horizon b

end ProcessBench

end DebugAdapter.Bench
