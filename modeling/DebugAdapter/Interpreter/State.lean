import DebugAdapter.Json.Decode
/-!
# Interpreter states

The phases an interpreter goes through, from loading to the end of the program.
-/

namespace DebugAdapter.Interpreter

/-- What an interpreter is doing. -/
inductive State where
  /-- It has not reported anything yet. -/
  | loading
  | initialized
  | setGlobalVariables
  | callCodeEntry
  | callUpdate
  | callCodeEnd
  | disposeGlobalVariables
  | codeExecuted
  | destroyed
deriving DecidableEq, Repr, Inhabited

namespace State

/-- The name of a state, on the wire and in a status line. -/
def name : State → String
  | loading => "Loading"
  | initialized => "Initialized"
  | setGlobalVariables => "SetGlobalVariables"
  | callCodeEntry => "CallCodeEntry"
  | callUpdate => "CallUpdate"
  | callCodeEnd => "CallCodeEnd"
  | disposeGlobalVariables => "DisposeGlobalVariables"
  | codeExecuted => "CodeExecuted"
  | destroyed => "Destroyed"

/-- All states, in the order of a program's life. -/
def all : List State :=
  [loading, initialized, setGlobalVariables, callCodeEntry, callUpdate, callCodeEnd,
    disposeGlobalVariables, codeExecuted, destroyed]

/-- Whether the program's own code is running. -/
def isRunningCode : State → Bool
  | callCodeEntry | callUpdate | callCodeEnd => true
  | _ => false

/-- Whether the interpreter sets the program up or tears it down; nobody looks at these steps. -/
def isBootstrap : State → Bool
  | setGlobalVariables | disposeGlobalVariables => true
  | _ => false

/-- Whether the program has ended. -/
def isTerminal : State → Bool
  | codeExecuted => true
  | _ => false

/-- The icon of a state in a status line. -/
def icon? : State → Option String
  | callCodeEnd | callCodeEntry | callUpdate | disposeGlobalVariables | setGlobalVariables =>
    some "debug-start"
  | codeExecuted => some "debug-stop"
  | destroyed => some "terminal-kill"
  | initialized => some "check"
  | loading => none

/-- A state from its name. -/
def decoder : Decoder State := Decode.oneOf (all.map fun s => (s.name, s)) none

/-- A state on the wire. -/
def encode (s : State) : Json := .string s.name

end State

end DebugAdapter.Interpreter
