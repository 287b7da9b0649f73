import DebugAdapter.Framing.Headed
import DebugAdapter.Protocol.Response
/-!
# Events and outgoing messages

What the adapter tells the editor of its own accord, and the envelope that numbers everything it
sends.
-/

namespace DebugAdapter.Protocol

/-- Why the program stopped, and which thread did. -/
structure Stopped where
  reason : String
  description : Option String := none
  threadId : Int
  allThreadsStopped : Option Bool := none
  text : Option String := none
deriving DecidableEq, Repr, Inhabited

def Stopped.encode (s : Stopped) : Json :=
  .object ([("reason", .string s.reason)] ++ optionalText "description" s.description
    ++ [("threadId", .int s.threadId)] ++ optionalBool "allThreadsStopped" s.allThreadsStopped
    ++ optionalText "text" s.text)

/-- Whether an output opens or closes a group. -/
inductive OutputGroup where
  | start
  | startCollapsed
  | end_
deriving DecidableEq, Repr, Inhabited

namespace OutputGroup

def name : OutputGroup → String
  | start => "start"
  | startCollapsed => "startCollapsed"
  | end_ => "end"

/-- The group of a name. -/
def ofName? (s : String) : Option OutputGroup := [start, startCollapsed, end_].find? (·.name = s)

end OutputGroup

/-- A piece of output. -/
structure Output where
  category : Option String := none
  output : String
  group : Option OutputGroup := none
  source : Option Source := none
  line : Option Int := none
  column : Option Int := none
deriving DecidableEq, Repr, Inhabited

def Output.encode (o : Output) : Json :=
  .object (optionalText "category" o.category ++ [("output", .string o.output)]
    ++ Json.optional "group" (o.group.map fun g => .string g.name)
    ++ Json.optional "source" (o.source.map Source.encode) ++ optionalInt "line" o.line
    ++ optionalInt "column" o.column)

/-- An event. -/
inductive Event where
  | initialized
  | stopped (body : Stopped)
  | output (body : Output)
  | invalidated (areas : List String)
  | terminated
deriving DecidableEq, Repr

namespace Event

/-- The name of an event. -/
def name : Event → String
  | initialized => "initialized"
  | stopped _ => "stopped"
  | output _ => "output"
  | invalidated _ => "invalidated"
  | terminated => "terminated"

/-- The body of an event, if it has one. -/
def body? : Event → Option Json
  | initialized => none
  | stopped body => some body.encode
  | output body => some body.encode
  | invalidated areas => some (.object [("areas", Json.strings areas)])
  | terminated => none

/-- The fields of an event. -/
def fields (e : Event) : List (String × Json) :=
  [("event", .string e.name)] ++ Json.optional "body" e.body?

end Event

/-- What the adapter sends. -/
inductive Outgoing where
  | response (r : Response)
  | event (e : Event)
deriving DecidableEq, Repr

namespace Outgoing

/-- The type of a message. -/
def type : Outgoing → String
  | response _ => "response"
  | event _ => "event"

/-- The fields of a message. -/
def fields : Outgoing → List (String × Json)
  | response r => r.fields
  | event e => e.fields

/-- A numbered message. -/
def encode (seq : Int) (m : Outgoing) : Json :=
  .object ([("seq", .int seq), ("type", .string m.type)] ++ m.fields)

/-- The octets of a numbered message. -/
def bytes (seq : Int) (m : Outgoing) : Bytes := Framing.Headed.encode (m.encode seq)

end Outgoing

end DebugAdapter.Protocol
