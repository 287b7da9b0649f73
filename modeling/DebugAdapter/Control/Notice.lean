import DebugAdapter.Interpreter.Output
/-!
# Notices of execution control

What execution control tells the session: that the program stopped, that it wrote something, that
it is over.
-/

namespace DebugAdapter.Control

/-- Where a piece of output is shown. -/
inductive Category where
  | stdout
  | stderr
  | console
  | important
deriving DecidableEq, Repr, Inhabited

namespace Category

/-- The name of a category. -/
def name : Category → String
  | stdout => "stdout"
  | stderr => "stderr"
  | console => "console"
  | important => "important"

/-- Where a console message is shown. -/
def ofSeverity : Interpreter.Severity → Category
  | .debug => stdout
  | .warning => important
  | .error => stderr
  | .system | .normal | .unknown => console

end Category

/-- Why the program stopped. -/
inductive StopReason where
  | entry
  | step
  | breakpoint
  | instructionBreakpoint
deriving DecidableEq, Repr, Inhabited

/-- A notice. -/
inductive Notice where
  | stopped (reason : StopReason)
  | output (category : Category) (text : String)
  /-- The debug session is over. -/
  | ended
deriving DecidableEq, Repr, Inhabited

end DebugAdapter.Control
