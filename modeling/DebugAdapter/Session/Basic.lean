import DebugAdapter.Session.Handler
/-!
# Sessions

A session between an editor and the interpreter. Requests are read from one stream and handled in
the order in which they come; what is sent goes through one queue and is numbered as it is written.
A session is over when the editor disconnects, closes its stream or sends a header that cannot be
read. The interpreter is then killed, and the session has ended when everything queued before has
been written. Which activity comes first is open.
-/

namespace DebugAdapter

open Session (Handler)

namespace Session

/-- What can happen in a session. -/
inductive Activity where
  | control (a : Control.Activity)
  /-- The next request is handled, or the end of the stream seen. -/
  | read
  /-- The next notice of execution control is passed on. -/
  | notice
  /-- A launch that was put off goes on. -/
  | resume (index : Nat)
  /-- A launch is answered. -/
  | complete (index : Nat)
  /-- The next message is written, or the session ends. -/
  | write
  /-- Nothing is left to be done after the end, and the present interpreter is given up. -/
  | discard
deriving DecidableEq, Repr

/-- How a session ended. -/
inductive Ending where
  | complete
  /-- The editor did not read any more. -/
  | unread
deriving DecidableEq, Repr, Inhabited

end Session

open Session

/-- A session. -/
structure Session where
  handler : Handler
  /-- From the editor. -/
  incoming : Framing.Pipe := {}
  /-- What has been read and not been used. -/
  buffer : Bytes := []
  /-- To the editor. -/
  outgoing : Framing.Pipe := {}
  /-- Whether no more requests are read. -/
  concluded : Bool := false
  /-- How many messages have been written. -/
  written : Nat := 0
  /-- Whether writing has failed. -/
  unwritable : Bool := false
  ending : Option Ending := none
deriving Inhabited

namespace Session

/-- The end of the conversation: the interpreter is killed, and the queue is closed. -/
def conclude (s : Session) : Session :=
  { s with
    concluded := true
    handler := { s.handler.withControl (·.terminate) with closed := true } }

/-- A request is handled. -/
def handle (s : Session) (now : Millis) (r : Protocol.Request) : Session :=
  let (handler, farewell) := s.handler.handle now r
  let s := { s with handler }
  if farewell then s.conclude else s

/-- The next request is handled, or the end of the stream seen. A body that is no request is passed
over. -/
def read? (s : Session) (now : Millis) : Option Session :=
  if s.concluded then none
  else
    let received := s.buffer ++ s.incoming.octets
    let t := Framing.Headed.nextLenient Protocol.Request.decoder received
    let after := { s with buffer := t.buffer, incoming := { s.incoming with octets := [] } }
    match t.item with
    | .ok (some (.ok r)) => some (after.handle now r)
    | .ok (some (.error _)) => some after
    | .error _ => some after.conclude
    | .ok none =>
      if s.incoming.writerGone then some after.conclude
      else if s.incoming.octets.isEmpty then none
      else some after

/-- A message is written under the next number. -/
def writeMessage (s : Session) (m : Protocol.Outgoing) : Session :=
  match s.outgoing.write? (m.bytes (s.written + 1 : Nat)) with
  | some outgoing => { s with outgoing, written := s.written + 1 }
  | none =>
    { s with unwritable := true, handler := { s.handler with closed := true, outbox := [] } }

/-- The next message is written. When there is none and none can follow, the session has ended. -/
def write? (s : Session) : Option Session :=
  match s.handler.outbox with
  | m :: outbox => some ({ s with handler := { s.handler with outbox } }.writeMessage m)
  | [] =>
    if s.concluded && s.ending.isNone then
      some { s with
        ending := some (if s.unwritable then .unread else .complete)
        outgoing := { s.outgoing with writerGone := true } }
    else none

/-- The next notice is passed on. -/
def notice? (s : Session) : Option Session :=
  if s.concluded then none
  else
    match s.handler.control.notices with
    | [] => none
    | n :: notices =>
      some { s with handler := (s.handler.withControl ({ · with notices })).notice n }

/-- After the end, when no launch and no task is left, the present interpreter is given up. -/
def discard? (s : Session) : Option Session :=
  let h := s.handler
  if s.ending.isSome && h.launches.isEmpty && h.control.isIdle && h.control.present.isSome then
    some { s with handler := h.withControl (·.disposeSession) }
  else none

/-- One activity, if it is possible. -/
def perform? (s : Session) (now : Millis) : Activity → Option Session
  | .control a =>
    (s.handler.control.perform? now a).map fun control =>
      { s with handler := { s.handler with control } }
  | .read => s.read? now
  | .notice => s.notice?
  | .resume i => (s.handler.resume? now s.ending.isSome i).map fun handler => { s with handler }
  | .complete i => (s.handler.complete? i).map fun handler => { s with handler }
  | .write => s.write?
  | .discard => s.discard?

/-- When the next timer fires. -/
def nextDue? (s : Session) : Option Millis :=
  let launches := s.handler.launches.filterMap fun p =>
    match p.stage with
    | .waiting due => some due
    | .starting _ => none
  (s.handler.control.nextDue?.toList ++ launches).min?

end Session

end DebugAdapter
