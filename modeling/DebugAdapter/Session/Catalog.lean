import DebugAdapter.Protocol.Response
/-!
# Fixed answers

What the adapter says of itself and of its only thread, and the answers that are always the same.
-/

namespace DebugAdapter.Session

open Protocol

/-- The number of the only thread. -/
def threadId : Int := 1

/-- The only thread. -/
def mainThread : Thread := { id := threadId, name := "Main Thread" }

/-- The name of the filter for named exceptions. -/
def namedExceptionFilter : ExceptionFilter :=
  { filter := "namedException"
    label := "Named Exception"
    description :=
      some "Break on named exceptions. Enter the exception's name as the Condition."
    default := some false
    supportsCondition := some true
    conditionDescription := some "Enter the exception's name" }

/-- The filter for all other exceptions. -/
def otherExceptionsFilter : ExceptionFilter :=
  { filter := "otherExceptions"
    label := "Other Exceptions"
    description := some "This is a other exception"
    default := some true
    supportsCondition := some false }

/-- What the adapter can do. -/
def capabilities : Capabilities :=
  { supportsConfigurationDoneRequest := some true
    supportsFunctionBreakpoints := some false
    supportsEvaluateForHovers := some false
    exceptionBreakpointFilters := some [namedExceptionFilter, otherExceptionsFilter]
    supportsStepBack := some false
    supportsSetVariable := some false
    supportsCompletionsRequest := some true
    supportsExceptionInfoRequest := some true
    supportTerminateDebuggee := some true
    supportSuspendDebuggee := some false
    supportsDelayedStackTraceLoading := some false
    supportsSetExpression := some true
    supportsDataBreakpoints := some false
    supportsReadMemoryRequest := some true
    supportsWriteMemoryRequest := some false
    supportsDisassembleRequest := some false
    supportsCancelRequest := some false
    supportsBreakpointLocationsRequest := some false
    supportsSteppingGranularity := some false
    supportsInstructionBreakpoints := some true
    supportsExceptionFilterOptions := some false
    supportsStepInTargetsRequest := some false }

/-- What is said about any exception: the interpreter does not report exceptions. -/
def exceptionInfo : ResponseBody :=
  .exceptionInfo "Exception ID" (some "This is a descriptive description of the exception.")
    "always"
    (some
      { message := some "Message contained in the exception."
        typeName := some "Short type name of the exception object"
        stackTrace := some "stack frame 1\nstack frame 2" })

/-- The completions of any text. -/
def completions : List CompletionItem :=
  [{ label := "item 10", sortText := some "10" },
    { label := "item 1", sortText := some "01", detail := some "detail 1" },
    { label := "item 2", sortText := some "02", detail := some "detail 2" },
    { label := "array[]", sortText := some "03", selectionStart := some 6 },
    { label := "func(arg)", sortText := some "04", selectionStart := some 5,
      selectionLength := some 3 }]

/-- Wrong arguments. -/
def invalidArguments (reason : String) : ErrorMessage :=
  ({ id := 1015, format := "invalid arguments: \x7breason\x7d" } : ErrorMessage).withVariable
    "reason" reason

/-- A command that the adapter does not know. -/
def unrecognized : ErrorMessage :=
  ({ id := 1014, format := "unrecognized request" } : ErrorMessage).withShowUser false

/-- A launch without a program. -/
def noProgram : ErrorMessage :=
  ({ id := 1004, format := "no program to debug" } : ErrorMessage).withShowUser true

/-- The compile error that a launch was asked to pretend. -/
def pretendedCompileError (e : CompileError) : ErrorMessage :=
  { id := 1001
    format := "compile error: some fake error."
    showUser :=
      match e with
      | .show => some true
      | .hide => some false
      | .default => none }

/-- No expression can be assigned to: variables are not found, and nothing else is assignable. -/
def notAssignable (expression : String) : ErrorMessage :=
  let m : ErrorMessage :=
    if expression.startsWith "$" then { id := 1002, format := "variable '\x7blexpr\x7d' not found" }
    else { id := 1003, format := "'\x7blexpr\x7d' not an assignable expression" }
  (m.withVariable "lexpr" expression).withShowUser true

end DebugAdapter.Session
