import DebugAdapter.Interpreter.Code
import DebugAdapter.Interpreter.Output
import DebugAdapter.Interpreter.State
import DebugAdapter.Program.Variable
/-!
# Snapshots

What is known about a running program, and the views of it: the status line, the current line, the
stack and the variables.
-/

namespace DebugAdapter.Program

open Interpreter (CallFrame DataItem DebugInfo Instruction Registers StackDump State Tag)

/-- What is known about a running program; each part is the last one reported. -/
structure Snapshot where
  state : State := .loading
  basePointer : Int := -1
  codePointer : Int := -1
  stack : Option (List DataItem) := none
  callStack : Option (List CallFrame) := none
  code : Option (List Instruction) := none
  debugInfo : List DebugInfo := []
deriving DecidableEq, Repr, Inhabited

/-- A frame of the stack as the user sees it. -/
structure Frame where
  index : Nat
  name : String
  file : String
  line : Int
  instruction : Option Int
deriving DecidableEq, Repr, Inhabited

/-- A place in the program: an instruction, and the line it comes from, if that is known. -/
structure Location where
  line : Option Int
  codePointer : Int
deriving DecidableEq, Repr, Inhabited

namespace Snapshot

/-- With other registers. -/
def withRegisters (s : Snapshot) (r : Registers) : Snapshot :=
  { s with basePointer := r.basePointer, codePointer := r.codePointer }

/-- With another stack. -/
def withStack (s : Snapshot) (d : StackDump) : Snapshot := { s with stack := some d.stack }

/-- With another call stack. -/
def withCallStack (s : Snapshot) (frames : List String) : Snapshot :=
  { s with callStack := some (Interpreter.parseCallStack frames) }

/-- The line of the current instruction. -/
def currentLine? (s : Snapshot) : Option Int :=
  (Interpreter.debugInfoAt? s.debugInfo s.codePointer).map (·.position.startLine)

/-- The current place. -/
def location (s : Snapshot) : Location := { line := s.currentLine?, codePointer := s.codePointer }

/-- The status line. -/
def statusLabel (s : Snapshot) : String := s.state.name ++ " (" ++ toString s.codePointer ++ ")"

/-- Frames numbered from `index` on. -/
def framesFrom : Nat → List CallFrame → List Frame
  | _, [] => []
  | index, .state _ :: rest => framesFrom index rest
  | index, .source name file offset line :: rest =>
    { index, name, file, line, instruction := some offset } :: framesFrom (index + 1) rest

/-- The frame of the current instruction, if the innermost frame belongs to the program and the
instruction has a line. -/
def instructionFrame? (s : Snapshot) (callStack : List CallFrame) (index : Nat) : Option Frame :=
  match callStack.getLast?, s.currentLine? with
  | some (.source _ file _ _), some line =>
    if line = 0 then none
    else some { index, name := "Instruction " ++ toString s.codePointer, file, line,
                instruction := none }
  | _, _ => none

/-- The frames of the program, the innermost first. -/
def frames (s : Snapshot) : List Frame :=
  let callStack := s.callStack.getD []
  let outer := framesFrom 0 callStack
  (outer ++ (s.instructionFrame? callStack outer.length).toList).reverse

/-- The stack items whose tag has a name, under that name. -/
def taggedVariables (s : Snapshot) (nameOf : Tag → Option String) : List Variable :=
  (s.stack.getD []).filterMap fun item => do
    let name ← nameOf (← item.tag)
    return Variable.ofItem name item

/-- The local variables. -/
def locals (s : Snapshot) : List Variable :=
  s.taggedVariables fun tag =>
    match tag with
    | .var name => some name
    | _ => none

/-- The parameters. -/
def parameters (s : Snapshot) : List Variable :=
  s.taggedVariables fun tag =>
    match tag with
    | .param name => some name
    | _ => none

end Snapshot

end DebugAdapter.Program
