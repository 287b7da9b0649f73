import DebugAdapter.Interpreter.CallStack
import DebugAdapter.Json.Decode
/-!
# Console output

What the interpreter pushes when the program writes to its console, with the place in the program
where that happened.
-/

namespace DebugAdapter.Interpreter

/-- How serious a message is. -/
inductive Severity where
  | system
  | normal
  | warning
  | error
  | debug
  | unknown
deriving DecidableEq, Repr, Inhabited

namespace Severity

/-- The name of a severity. -/
def name : Severity → String
  | system => "System"
  | normal => "Normal"
  | warning => "Warning"
  | error => "Error"
  | debug => "Debug"
  | unknown => "Unknown"

/-- The severities. -/
def all : List Severity := [system, normal, warning, error, debug, unknown]

/-- A severity from its name; any other name is an unknown one. -/
def decoder : Decoder Severity := Decode.oneOf (all.map fun s => (s.name, s)) (some unknown)

def encode (s : Severity) : Json := .string s.name

end Severity

/-- Where the interpreter was, as it reports it. -/
structure WireContext where
  codePointer : Int
  callStack : List String
deriving DecidableEq, Repr, Inhabited

/-- Where the interpreter was. -/
structure Context where
  codePointer : Int
  callStack : List CallFrame
deriving DecidableEq, Repr, Inhabited

namespace WireContext

/-- The place in the program; a code pointer of -1 is none. -/
def context? (w : WireContext) : Option Context :=
  if w.codePointer = -1 then none else some ⟨w.codePointer, parseCallStack w.callStack⟩

def decoder : Decoder WireContext :=
  Decode.record "WireContext" <|
    ((Decode.Fields.pure WireContext.mk).required "CodePointer" Decode.int64
      |>.defaulted "CallStack" [] (Decode.list Decode.string))

def encode (w : WireContext) : Json :=
  .object [("CallStack", Json.strings w.callStack), ("CodePointer", .int w.codePointer)]

end WireContext

/-- A message for the console. -/
structure ConsoleOut where
  message : String
  severity : Severity
  context : Option WireContext
deriving DecidableEq, Repr, Inhabited

namespace ConsoleOut

def decoder : Decoder ConsoleOut :=
  Decode.record "ConsoleOut" <|
    ((Decode.Fields.pure ConsoleOut.mk).required "Message" Decode.string
      |>.required "Type" Severity.decoder
      |>.defaulted "Context" none (Decode.optional WireContext.decoder))

def encode (c : ConsoleOut) : Json :=
  .object [("Context", Json.orNull (c.context.map WireContext.encode)),
    ("Message", .string c.message), ("Type", c.severity.encode)]

end ConsoleOut

end DebugAdapter.Interpreter
