import DebugAdapter.Framing.Intake
import DebugAdapter.Interpreter.Script
/-!
# Scripted interpreters at work

A scripted interpreter at the far end of two pipes: it reads messages from one, and writes its
answers and what it is made to push to the other. When it ends, it lets go of both pipes.
-/

namespace DebugAdapter.Interpreter

open Framing (Delimiting Intake Line)

/-- A scripted interpreter. -/
structure ScriptedInterpreter where
  script : Script
  intake : Intake
  /-- How many messages it has written. -/
  written : Nat := 0
  /-- The messages that it has read and that are worth noting. -/
  noted : List Message := []
  ended : Bool := false
deriving Repr, Inhabited

namespace ScriptedInterpreter

/-- An interpreter that has not read anything. -/
def start (script : Script) (delimiting : Delimiting) : ScriptedInterpreter :=
  { script, intake := { reader := { delimiting } } }

/-- The interpreter ends. -/
def close (s : ScriptedInterpreter) (l : Line) : ScriptedInterpreter × Line :=
  ({ s with ended := true }, l.hangUp)

/-- Octets are written; an interpreter that nobody reads ends. -/
def write (s : ScriptedInterpreter) (l : Line) (bs : Bytes) : ScriptedInterpreter × Line :=
  if s.ended then (s, l)
  else
    match l.inbound.write? bs with
    | some inbound => (s, { l with inbound })
    | none => s.close l

/-- A message is written, under the next number unless it has one; an interpreter ends at a message
that cannot be framed. -/
def send (s : ScriptedInterpreter) (l : Line) (type : String) (id : Option String)
    (reply : Option String) (data : Json) : ScriptedInterpreter × Line :=
  if s.ended then (s, l)
  else
    let s := { s with written := s.written + 1 }
    let m : Message := { type, id := id.getD ("stub-" ++ toString s.written), reply, data }
    match s.intake.reader.delimiting.encode m with
    | .ok bs => s.write l bs
    | .error _ => s.close l

/-- Whether a message is neither a step nor one of the questions that a monitor repeats. -/
def isNotable (m : Message) : Bool :=
  m.type ≠ stepCommand && !m.type.startsWith "interpreter/"

/-- A message is answered as the script says. -/
def receive (s : ScriptedInterpreter) (l : Line) (m : Message) : ScriptedInterpreter × Line :=
  let (script, answer) := s.script.receive m
  let s := { s with script, noted := if isNotable m then s.noted ++ [m] else s.noted }
  match answer with
  | some data => s.send l m.type none (some m.id) data
  | none => (s, l)

/-- The next frame is taken from the line, or its end seen, if there is anything to see. -/
def read? (s : ScriptedInterpreter) (l : Line) : Option (ScriptedInterpreter × Line) :=
  if s.ended then none
  else
    let (taken, intake, outbound) := s.intake.take l.outbound
    let after := { s with intake }
    let line := { l with outbound }
    match taken with
    | .frame (.ok m) => some (after.receive line m)
    | .frame (.error _) => some (after, line)
    | .over => some (after.close line)
    | .nothing =>
      if l.outbound.octets.isEmpty && !s.intake.readable then none else some (after, line)

end ScriptedInterpreter

end DebugAdapter.Interpreter
