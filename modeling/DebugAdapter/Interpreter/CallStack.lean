import DebugAdapter.Text.Blank
import DebugAdapter.Text.Integer
import DebugAdapter.Text.Quoted
/-!
# Call stacks

The interpreter reports each frame as a text: `State: <name>` for one of its own phases, or
`<name>;<file>;<offset>;<line>` for a function of the program.
-/

namespace DebugAdapter.Interpreter

/-- A frame of the call stack. -/
inductive CallFrame where
  /-- A phase of the interpreter. -/
  | state (name : String)
  /-- A function of the program: the offset of its current instruction and the line of it. -/
  | source (name file : String) (offset line : Int)
deriving DecidableEq, Repr, Inhabited

/-- Why a text is no frame. -/
inductive CallFrameFlaw where
  | fewFields
  | offset (flaw : Text.IntegerFlaw)
  | line (flaw : Text.IntegerFlaw)
deriving DecidableEq, Repr

namespace CallFrame

/-- Whether the frame is a phase of the interpreter. -/
def isState : CallFrame → Bool
  | state _ => true
  | source .. => false

/-- The name of a frame. -/
def name : CallFrame → String
  | state name => name
  | source name .. => name

/-- How the text of a phase starts. -/
def stateMark : String := "State: "

/-- An integer between blanks. -/
def readField (cs : List Char) : Except Text.IntegerFlaw Int :=
  Text.readInteger .signed64 10 (Text.trimChars cs)

/-- A frame from its fields; those after the fourth do not count. -/
def ofFields : List (List Char) → Except CallFrameFlaw CallFrame
  | name :: file :: offset :: line :: _ => do
    let offset ← (readField offset).mapError .offset
    let line ← (readField line).mapError .line
    return source (String.ofList name) (String.ofList file) offset line
  | _ => .error .fewFields

/-- The frame of a text. -/
def ofText (s : String) : Except CallFrameFlaw CallFrame :=
  match Text.afterStart? stateMark s with
  | some name => .ok (state name)
  | none => ofFields (Text.fields ';' s.toList)

/-- The text of a frame. -/
def text : CallFrame → String
  | state name => stateMark ++ name
  | source name file offset line =>
    name ++ ";" ++ file ++ ";" ++ toString offset ++ ";" ++ toString line

end CallFrame

/-- How a flaw of the text `s` is reported. -/
def CallFrameFlaw.message (s : String) : CallFrameFlaw → String
  | .fewFields => "call stack frame " ++ Text.quoted s ++ " does not have four fields"
  | .offset flaw => "invalid offset in frame " ++ Text.quoted s ++ ": " ++ flaw.message
  | .line flaw => "invalid line in frame " ++ Text.quoted s ++ ": " ++ flaw.message

/-- The frames among some texts; the others are left out. -/
def parseCallStack (texts : List String) : List CallFrame :=
  texts.filterMap fun s => (CallFrame.ofText s).toOption

end DebugAdapter.Interpreter
