import DebugAdapter.Channel.Link
import DebugAdapter.Monitor.Basic
/-!
# Debuggees

A running interpreter together with its monitor: the link to it, the monitor, and what is on its way
between the two. What the channel reports goes through one queue to the monitor's listener; what it
completes is settled in any order. Which activity comes first is open.
-/

namespace DebugAdapter

open Channel (Effect Link RequestError Status)
open Monitor (Event Query Waiter)

/-- A running interpreter under a monitor. -/
structure Debuggee where
  monitor : Monitor
  link : Link Query
  /-- What the channel has reported, until it is passed on. -/
  reports : List Channel.Event := []
  /-- Completed questions that the monitor has not settled. -/
  answers : List (Query × Except RequestError Json) := []
  /-- What nobody has heard yet. -/
  news : List Event := []
deriving Inhabited

namespace Debuggee

/-- What can happen to a debuggee. -/
inductive Activity where
  | link (m : Channel.Move)
  /-- The next report of the channel is passed on. -/
  | forward
  /-- One of the completed questions is settled. -/
  | settle (index : Nat)
  | poll
  | fetch
deriving DecidableEq, Repr

/-- An interpreter that is started now. -/
def start (config : Monitor.Config) (now : Millis) : Debuggee :=
  { monitor := .start config now, link := .overPipe config.channel }

/-- What has become of the interpreter. -/
def status (d : Debuggee) : Status := d.link.channel.status

/-- Whether the interpreter is alive. -/
def isRunning (d : Debuggee) : Bool := d.link.channel.isRunning

/-- What is known about the program. -/
def snapshot (d : Debuggee) : Program.Snapshot := d.monitor.snapshot

/-- What the effects of the channel leave behind. -/
def absorb (d : Debuggee) (effects : List (Effect Query)) : Debuggee :=
  { d with
    reports := d.reports ++ effects.filterMap fun e =>
      match e with
      | .emit event => some event
      | _ => none
    answers := d.answers ++ effects.filterMap fun e =>
      match e with
      | .complete query result => some (query, result)
      | _ => none }

/-- A question is put to the interpreter; a channel that has ended answers at once. -/
def ask (d : Debuggee) (q : Query) : Debuggee :=
  match d.link.send? (.request q q.type .null (some (d.monitor.patience q))) with
  | some link => { d with link }
  | none => { d with answers := d.answers ++ [(q, .error .closed)] }

/-- Questions in order. -/
def askAll (d : Debuggee) (qs : List Query) : Debuggee := qs.foldl ask d

/-- One activity, if it is possible. -/
def perform? (d : Debuggee) (now : Millis) : Activity → Option Debuggee
  | .link m => (d.link.perform? now m).map fun (link, effects) => { d with link }.absorb effects
  | .forward =>
    match d.reports with
    | [] => none
    | e :: reports => some { d with reports, news := d.news ++ (Monitor.eventOfChannel? e).toList }
  | .settle i =>
    match d.answers[i]? with
    | some (q, a) =>
      let (monitor, events) := d.monitor.answer q a
      some { d with monitor, answers := d.answers.eraseIdx i, news := d.news ++ events }
    | none => none
  | .poll =>
    match d.monitor.nextPoll with
    | some due =>
      if due ≤ now then
        let (monitor, queries, events) := d.monitor.poll now d.status
        some ({ d with monitor, news := d.news ++ events }.askAll queries)
      else none
    | none => none
  | .fetch =>
    match d.monitor.fetch with
    | .waiting due =>
      if due ≤ now then
        let (monitor, queries) := d.monitor.fetchCode d.status
        some ({ d with monitor }.askAll queries)
      else none
    | _ => none

/-- When the next timer fires. -/
def nextDue? (d : Debuggee) : Option Millis :=
  let fetch :=
    match d.monitor.fetch with
    | .waiting due => some due
    | _ => none
  (d.link.nextDue?.toList ++ d.monitor.nextPoll.toList ++ fetch.toList).min?

/-- The next event is heard. -/
def hear? (d : Debuggee) : Option (Event × Debuggee) :=
  match d.news with
  | [] => none
  | e :: news => some (e, { d with news })

/-- A message is queued, if the channel has not ended. -/
def send? (d : Debuggee) (type : String) (data : Json) : Option Debuggee :=
  (d.link.send? (.send type data none)).map fun link => { d with link }

/-- The interpreter is told to execute one instruction; who waits for that waits for a tick that
begins after this command. Nothing happens if the interpreter is gone. -/
def execute? (d : Debuggee) (now : Millis) : Option (Waiter × Debuggee) :=
  if d.monitor.disposed || !d.isRunning then none
  else
    (d.send? Interpreter.stepCommand .null).map fun d =>
      ({ issued := d.monitor.ticksStarted, due := now + d.monitor.config.statusTimeout }, d)

/-- Polling stops and the interpreter is killed. -/
def dispose (d : Debuggee) : Debuggee :=
  { d with monitor := d.monitor.dispose, link := (d.link.send? .stop).getD d.link }

end Debuggee

end DebugAdapter
