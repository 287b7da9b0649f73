import DebugAdapter.Bench.Clock
import DebugAdapter.Channel.Link
/-!
# A channel on a bench

A channel over a pipe whose other end is played by the bench.
-/

namespace DebugAdapter.Bench

open Channel (Config Effect Link Move RequestError Status)
open Framing (Frame Intake Pipe Taken)
open Interpreter (Message)

/-- A channel, its peer, and what has been seen of them. -/
structure ChannelBench where
  now : Millis := 0
  link : Link Nat
  /-- What the peer has read so far. -/
  peer : Intake
  /-- Whether the peer holds its end. -/
  peerOpen : Bool := true
  /-- Whether the bench holds the channel. -/
  held : Bool := true
  /-- How many requests have been made. -/
  requests : Nat := 0
  sent : List Frame := []
  events : List Channel.Event := []
  resolved : List (Nat × Except RequestError Json) := []

namespace ChannelBench

/-- A channel with a peer that uses the same delimiter. -/
def start (config : Config) : ChannelBench :=
  { link := .overPipe config
    peer := { reader := { delimiting := { delimiter := config.delimiting.delimiter } } } }

/-- How many hold the channel: the bench, and each request that waits. -/
def countHolders (b : ChannelBench) : Nat :=
  (if b.held then 1 else 0) + (b.requests - b.resolved.length)

/-- What the effects show. -/
def note (b : ChannelBench) (effects : List (Effect Nat)) : ChannelBench :=
  let b := effects.foldl (fun (b : ChannelBench) e =>
    match e with
    | .emit event => { b with events := b.events ++ [event] }
    | .complete asker result => { b with resolved := b.resolved ++ [(asker, result)] }
    | .write _ | .kill => b) b
  { b with link := { b.link with holders := b.countHolders } }

/-- A move of the link. -/
def linkMove? (b : ChannelBench) (m : Move) : Option ChannelBench :=
  (b.link.perform? b.now m).map fun (link, effects) => { b with link }.note effects

/-- The peer takes a message. -/
def peerMove? (b : ChannelBench) : Option ChannelBench :=
  if !b.peerOpen || (b.link.line.outbound.octets.isEmpty && !b.peer.readable) then none
  else
    let (taken, peer, outbound) := b.peer.take b.link.line.outbound
    let b := { b with peer, link := { b.link with line := { b.link.line with outbound } } }
    match taken with
    | .frame f => some { b with sent := b.sent ++ [f] }
    | .over | .nothing => some b

/-- The next move: commands first, then what has arrived, then timers. -/
def move? (b : ChannelBench) : Option ChannelBench :=
  b.linkMove? .command <|> b.linkMove? .read <|> b.peerMove? <|> b.linkMove? .flush
    <|> b.linkMove? .expire

/-- The requests that have been answered since an earlier moment, in the order in which they were
made. -/
def resolvedSince (b earlier : ChannelBench) : List (Nat × Except RequestError Json) :=
  (b.resolved.drop earlier.resolved.length).mergeSort (·.1 ≤ ·.1)

/-- The bench with its clock. -/
def clocked : Clocked ChannelBench :=
  { now := (·.now), setNow := fun b now => { b with now }, move?, nextDue? := (·.link.nextDue?) }

/-- The bench a moment later, when everything has settled. -/
def settle (b : ChannelBench) : ChannelBench := clocked.runFor 20 b

/-- A message is queued; whether that was possible is also returned. -/
def send (b : ChannelBench) (type : String) (data : Json) (reply : Option String) :
    Bool × ChannelBench :=
  match b.link.send? (.send type data reply) with
  | some link => (true, { b with link })
  | none => (false, b)

/-- A request is made. -/
def request (b : ChannelBench) (type : String) (data : Json) (timeout : Option Millis) :
    ChannelBench :=
  let n := b.requests + 1
  let b := { b with requests := n }
  match b.link.send? (.request n type data timeout) with
  | some link => { b with link := { link with holders := b.countHolders } }
  | none => b.note [.complete n (.error .closed)]

/-- The interpreter is killed. -/
def stop (b : ChannelBench) : ChannelBench := { b with link := (b.link.send? .stop).getD b.link }

/-- The bench lets go of the channel. -/
def drop (b : ChannelBench) : ChannelBench := ({ b with held := false } : ChannelBench).note []

/-- The peer writes octets; whether that was possible is also returned. -/
def peerWrite (b : ChannelBench) (bs : Bytes) : Bool × ChannelBench :=
  match b.peerOpen, b.link.line.inbound.write? bs with
  | true, some inbound =>
    (true, { b with link := { b.link with line := { b.link.line with inbound } } })
  | _, _ => (false, b)

/-- The peer sends a message; whether that was possible is also returned. -/
def peerSend (b : ChannelBench) (m : Message) : Bool × ChannelBench :=
  match b.link.channel.config.delimiting.encode m with
  | .ok bs => b.peerWrite bs
  | .error _ => (false, b)

/-- The peer lets go of its end. -/
def peerClose (b : ChannelBench) : ChannelBench :=
  { b with
    peerOpen := false
    link := { b.link with line := b.link.line.hangUp } }

end ChannelBench

end DebugAdapter.Bench
