import DebugAdapter.Protocol.Request
/-!
# Responses

What the adapter answers. A response repeats the number and the command of its request; a body is
written in place.
-/

namespace DebugAdapter.Protocol

/-- What the adapter can do; `none` says nothing about an ability. -/
structure Capabilities where
  supportsConfigurationDoneRequest : Option Bool := none
  supportsFunctionBreakpoints : Option Bool := none
  supportsEvaluateForHovers : Option Bool := none
  exceptionBreakpointFilters : Option (List ExceptionFilter) := none
  supportsStepBack : Option Bool := none
  supportsSetVariable : Option Bool := none
  supportsCompletionsRequest : Option Bool := none
  supportsExceptionInfoRequest : Option Bool := none
  supportTerminateDebuggee : Option Bool := none
  supportSuspendDebuggee : Option Bool := none
  supportsDelayedStackTraceLoading : Option Bool := none
  supportsSetExpression : Option Bool := none
  supportsDataBreakpoints : Option Bool := none
  supportsReadMemoryRequest : Option Bool := none
  supportsWriteMemoryRequest : Option Bool := none
  supportsDisassembleRequest : Option Bool := none
  supportsCancelRequest : Option Bool := none
  supportsBreakpointLocationsRequest : Option Bool := none
  supportsSteppingGranularity : Option Bool := none
  supportsInstructionBreakpoints : Option Bool := none
  supportsExceptionFilterOptions : Option Bool := none
  supportsStepInTargetsRequest : Option Bool := none
deriving DecidableEq, Repr, Inhabited

def Capabilities.encode (c : Capabilities) : Json :=
  .object (optionalBool "supportsConfigurationDoneRequest" c.supportsConfigurationDoneRequest
    ++ optionalBool "supportsFunctionBreakpoints" c.supportsFunctionBreakpoints
    ++ optionalBool "supportsEvaluateForHovers" c.supportsEvaluateForHovers
    ++ Json.optional "exceptionBreakpointFilters"
      (c.exceptionBreakpointFilters.map fun fs => .array (fs.map ExceptionFilter.encode))
    ++ optionalBool "supportsStepBack" c.supportsStepBack
    ++ optionalBool "supportsSetVariable" c.supportsSetVariable
    ++ optionalBool "supportsCompletionsRequest" c.supportsCompletionsRequest
    ++ optionalBool "supportsExceptionInfoRequest" c.supportsExceptionInfoRequest
    ++ optionalBool "supportTerminateDebuggee" c.supportTerminateDebuggee
    ++ optionalBool "supportSuspendDebuggee" c.supportSuspendDebuggee
    ++ optionalBool "supportsDelayedStackTraceLoading" c.supportsDelayedStackTraceLoading
    ++ optionalBool "supportsSetExpression" c.supportsSetExpression
    ++ optionalBool "supportsDataBreakpoints" c.supportsDataBreakpoints
    ++ optionalBool "supportsReadMemoryRequest" c.supportsReadMemoryRequest
    ++ optionalBool "supportsWriteMemoryRequest" c.supportsWriteMemoryRequest
    ++ optionalBool "supportsDisassembleRequest" c.supportsDisassembleRequest
    ++ optionalBool "supportsCancelRequest" c.supportsCancelRequest
    ++ optionalBool "supportsBreakpointLocationsRequest" c.supportsBreakpointLocationsRequest
    ++ optionalBool "supportsSteppingGranularity" c.supportsSteppingGranularity
    ++ optionalBool "supportsInstructionBreakpoints" c.supportsInstructionBreakpoints
    ++ optionalBool "supportsExceptionFilterOptions" c.supportsExceptionFilterOptions
    ++ optionalBool "supportsStepInTargetsRequest" c.supportsStepInTargetsRequest)

/-- The body of a response. -/
inductive ResponseBody where
  | capabilities (c : Capabilities)
  | breakpoints (bs : List Breakpoint)
  | breakpointLocations (bs : List BreakpointLocation)
  | dataBreakpointInfo (dataId : Option String) (description : String)
      (accessTypes : Option (List AccessType)) (canPersist : Option Bool)
  | exceptionInfo (exceptionId : String) (description : Option String) (breakMode : String)
      (details : Option ExceptionDetails)
  | threads (ts : List Thread)
  | stackTrace (frames : List StackFrame) (totalFrames : Nat)
  | scopes (ss : List Scope)
  | variables (vs : List Variable)
  | continued (allThreads : Bool)
  | evaluated (result : String) (variablesReference : Int) (hint : Option PresentationHint)
  | expressionSet (value : String) (variablesReference : Option Int)
  | completions (targets : List CompletionItem)
  | memory (address data : String) (unreadableBytes : Int)
  | error (m : Option ErrorMessage)
deriving DecidableEq, Repr

def ResponseBody.encode : ResponseBody → Json
  | .capabilities c => c.encode
  | .breakpoints bs => .object [("breakpoints", .array (bs.map Breakpoint.encode))]
  | .breakpointLocations bs => .object [("breakpoints", .array (bs.map BreakpointLocation.encode))]
  | .dataBreakpointInfo dataId description accessTypes canPersist =>
    .object ([("dataId", Json.orNull (dataId.map .string)), ("description", .string description)]
      ++ Json.optional "accessTypes" (accessTypes.map fun ts => .array (ts.map AccessType.encode))
      ++ optionalBool "canPersist" canPersist)
  | .exceptionInfo exceptionId description breakMode details =>
    .object ([("exceptionId", .string exceptionId)] ++ optionalText "description" description
      ++ [("breakMode", .string breakMode)]
      ++ Json.optional "details" (details.map ExceptionDetails.encode))
  | .threads ts => .object [("threads", .array (ts.map Thread.encode))]
  | .stackTrace frames total =>
    .object [("stackFrames", .array (frames.map StackFrame.encode)), ("totalFrames", .nat total)]
  | .scopes ss => .object [("scopes", .array (ss.map Scope.encode))]
  | .variables vs => .object [("variables", .array (vs.map Variable.encode))]
  | .continued allThreads => .object [("allThreadsContinued", .bool allThreads)]
  | .evaluated result reference hint =>
    .object ([("result", .string result), ("variablesReference", .int reference)]
      ++ Json.optional "presentationHint" (hint.map PresentationHint.encode))
  | .expressionSet value reference =>
    .object ([("value", .string value)] ++ optionalInt "variablesReference" reference)
  | .completions targets => .object [("targets", .array (targets.map CompletionItem.encode))]
  | .memory address data unreadable =>
    .object [("address", .string address), ("data", .string data),
      ("unreadableBytes", .int unreadable)]
  | .error m => .object (Json.optional "error" (m.map ErrorMessage.encode))

/-- A response. -/
structure Response where
  requestSeq : Int
  success : Bool
  command : String
  message : Option String := none
  body : Option ResponseBody := none
deriving DecidableEq, Repr

namespace Response

/-- A success without a body. -/
def ack (r : Request) : Response := { requestSeq := r.seq, success := true, command := r.command }

/-- A success. -/
def ok (r : Request) (body : ResponseBody) : Response := { ack r with body := some body }

/-- A failure with an error in its body. -/
def error (r : Request) (m : ErrorMessage) : Response :=
  { ack r with success := false, message := some m.format, body := some (.error (some m)) }

/-- A failure with a short text alone. -/
def failure (r : Request) (text : String) : Response :=
  { ack r with success := false, message := some text }

/-- The fields of a response. -/
def fields (r : Response) : List (String × Json) :=
  [("request_seq", .int r.requestSeq), ("success", .bool r.success), ("command", .string r.command)]
    ++ optionalText "message" r.message ++ Json.optional "body" (r.body.map ResponseBody.encode)

end Response

end DebugAdapter.Protocol
