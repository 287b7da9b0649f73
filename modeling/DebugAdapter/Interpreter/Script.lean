import DebugAdapter.Interpreter.CallStack
import DebugAdapter.Interpreter.Code
import DebugAdapter.Interpreter.Message
import DebugAdapter.Interpreter.State
/-!
# Scripted interpreters

An interpreter that follows a script answers each message by a table, which changes from one step of
the program to the next. A scripted program lists what is reported between two steps; its last step
is reported for ever.
-/

namespace DebugAdapter.Interpreter

/-- The types of the messages that the adapter sends. -/
def stepCommand : String := "debug/step"
def stateQuery : String := "interpreter/state"
def registersQuery : String := "interpreter/registers"
def stackQuery : String := "interpreter/stack"
def callStackQuery : String := "interpreter/callstack"
def debugInfoQuery : String := "compiler/debuginfo"
def codeQuery : String := "compiler/code"
def evaluateCommand : String := "eval"

/-- A script: the present answers by the type of the question, the changes that the next steps make
(`none` takes an answer away), and the number of steps made. -/
structure Script where
  answers : List (String × Json) := []
  upcoming : List (List (String × Option Json)) := []
  steps : Nat := 0
deriving Repr, Inhabited

namespace Script

/-- A changed table. -/
def change (answers : List (String × Json)) (changes : List (String × Option Json)) :
    List (String × Json) :=
  changes.foldl (fun answers (type, answer) =>
    let others := answers.filter (·.1 ≠ type)
    match answer with
    | some data => (type, data) :: others
    | none => others) answers

/-- The script with a changed table. -/
def withChanges (s : Script) (changes : List (String × Option Json)) : Script :=
  { s with answers := change s.answers changes }

/-- The script after a step. -/
def step (s : Script) : Script :=
  { (s.withChanges (s.upcoming.head?.getD [])) with
    upcoming := s.upcoming.tail, steps := s.steps + 1 }

/-- The script after a message, and the answer to it. -/
def receive (s : Script) (m : Message) : Script × Option Json :=
  let s := if m.type == stepCommand then s.step else s
  (s, s.answers.lookup m.type)

end Script

/-- What a program reports between two steps. -/
structure ScriptedStep where
  state : State
  codePointer : Int
  basePointer : Int := 0
  stack : List DataItem := []
  callStack : List String
deriving DecidableEq, Repr, Inhabited

namespace ScriptedStep

/-- A step in a state, without a stack. -/
def inState (state : State) (codePointer : Int) : ScriptedStep :=
  { state, codePointer, callStack := [CallFrame.stateMark ++ state.name] }

/-- What is answered at a step. -/
def answers (s : ScriptedStep) : List (String × Json) :=
  [(stateQuery, s.state.encode),
    (registersQuery, (Registers.mk s.basePointer s.codePointer).encode),
    (stackQuery, (StackDump.mk s.stack.length s.stack).encode),
    (callStackQuery, Json.strings s.callStack)]

end ScriptedStep

/-- A program as its interpreter reports it. -/
structure ScriptedProgram where
  steps : List ScriptedStep := []
  debugInfo : List DebugInfo := []
  code : List Instruction := []
  /-- Whether questions about the compiled code stay unanswered. -/
  silentCompiler : Bool := false
deriving DecidableEq, Repr, Inhabited

namespace ScriptedProgram

/-- The step at the instruction `offset`, which comes from `line` of `file`. -/
def stepAt (file : String) (offset : Nat) (line : Int) : ScriptedStep :=
  let step := ScriptedStep.inState .callUpdate offset
  { step with
    callStack := step.callStack ++ [(CallFrame.source "main" file offset line).text] }

/-- The debug information of one instruction. -/
def infoAt (offset : Nat) (line : Int) : DebugInfo :=
  { startOffset := offset, endOffset := offset, position := { startLine := line, endLine := line } }

/-- A program of one instruction for each of some lines, between set-up and tear-down. -/
def ofLines (file : String) (lines : List Int) : ScriptedProgram :=
  let numbered := lines.zipIdx
  { steps :=
      [.inState .setGlobalVariables (-1)] ++ numbered.map (fun (line, i) => stepAt file i line)
        ++ [.inState .disposeGlobalVariables (-1), .inState .codeExecuted (-1)]
    debugInfo := numbered.map fun (line, i) => infoAt i line
    code := lines.map fun _ => { opcode := "NOP", parameter := none, tag := none } }

/-- What is answered about the compiled code. -/
def compilerAnswers (p : ScriptedProgram) : List (String × Json) :=
  if p.silentCompiler then []
  else
    [(debugInfoQuery, .array (p.debugInfo.map DebugInfo.encode)),
      (codeQuery, .array (p.code.map Instruction.encode))]

/-- The script of a program; a program without steps answers nothing. -/
def script (p : ScriptedProgram) : Script :=
  match p.steps with
  | [] => {}
  | first :: rest =>
    { answers := first.answers ++ p.compilerAnswers
      upcoming := rest.map fun s => s.answers.map fun (type, data) => (type, some data) }

end ScriptedProgram

end DebugAdapter.Interpreter
