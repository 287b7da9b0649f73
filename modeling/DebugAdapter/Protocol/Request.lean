import DebugAdapter.Protocol.Types
/-!
# Requests

What the editor asks for. A request is read in two steps: first as a command with arguments of any
kind, so that even one with a foreign command or with wrong arguments can be answered, then with the
arguments that its command wants.
-/

namespace DebugAdapter.Protocol

/-- A request with arguments of any kind. -/
structure Request where
  seq : Int
  type : String
  command : String
  arguments : Json
deriving Repr, Inhabited

namespace Request

/-- The type of a request that gives none. -/
def defaultType : String := "request"

def decoder : Decoder Request :=
  Decode.record "Request" <|
    ((Decode.Fields.pure Request.mk).required "seq" Decode.int64
      |>.defaulted "type" defaultType Decode.string
      |>.required "command" Decode.string
      |>.defaulted "arguments" .null Decode.json)

/-- A request; arguments that are `null` are left out. -/
def encode (r : Request) : Json :=
  .object ([("seq", .int r.seq), ("type", .string r.type), ("command", .string r.command)]
    ++ match r.arguments with
      | .null => []
      | arguments => [("arguments", arguments)])

end Request

/-! ## Arguments -/

structure Initialize where
  adapterId : Option String
  linesStartAtOne : Option Bool
  supportsInvalidatedEvent : Option Bool
  supportsMemoryReferences : Option Bool
deriving DecidableEq, Repr, Inhabited

def Initialize.decoder : Decoder Initialize :=
  Decode.record "Initialize" <|
    ((Decode.Fields.pure Initialize.mk).optional "adapterID" Decode.string
      |>.optional "linesStartAt1" Decode.bool
      |>.optional "supportsInvalidatedEvent" Decode.bool
      |>.optional "supportsMemoryReferences" Decode.bool)

/-- How a launch reports the compile error that it pretends. -/
inductive CompileError where
  | default
  | show
  | hide
deriving DecidableEq, Repr, Inhabited

namespace CompileError

def name : CompileError → String
  | .default => "default"
  | .show => "show"
  | .hide => "hide"

def decoder : Decoder CompileError :=
  Decode.oneOf ([CompileError.default, .show, .hide].map fun c => (c.name, c)) none

end CompileError

/-- The arguments of `launch` and `attach`. -/
structure Launch where
  program : Option String
  stopOnEntry : Option Bool
  noDebug : Option Bool
  trace : Option Bool
  compileError : Option CompileError
deriving DecidableEq, Repr, Inhabited

def Launch.decoder : Decoder Launch :=
  Decode.record "Launch" <|
    ((Decode.Fields.pure Launch.mk).optional "program" Decode.string
      |>.optional "stopOnEntry" Decode.bool
      |>.optional "noDebug" Decode.bool
      |>.optional "trace" Decode.bool
      |>.optional "compileError" CompileError.decoder)

structure Disconnect where
  restart : Option Bool
  terminateDebuggee : Option Bool
deriving DecidableEq, Repr, Inhabited

def Disconnect.decoder : Decoder Disconnect :=
  Decode.record "Disconnect" <|
    ((Decode.Fields.pure Disconnect.mk).optional "restart" Decode.bool
      |>.optional "terminateDebuggee" Decode.bool)

structure Terminate where
  restart : Option Bool
deriving DecidableEq, Repr, Inhabited

def Terminate.decoder : Decoder Terminate :=
  Decode.record "Terminate" ((Decode.Fields.pure Terminate.mk).optional "restart" Decode.bool)

structure SetBreakpoints where
  source : Source
  breakpoints : Option (List SourceBreakpoint)
  lines : Option (List Int)
  sourceModified : Option Bool
deriving DecidableEq, Repr, Inhabited

namespace SetBreakpoints

def decoder : Decoder SetBreakpoints :=
  Decode.record "SetBreakpoints" <|
    ((Decode.Fields.pure SetBreakpoints.mk).required "source" Source.decoder
      |>.optional "breakpoints" (Decode.list SourceBreakpoint.decoder)
      |>.optional "lines" (Decode.list Decode.int64)
      |>.optional "sourceModified" Decode.bool)

/-- The lines that are asked for: those of the breakpoints, or else the bare lines. -/
def requestedLines (args : SetBreakpoints) : List Int :=
  match args.breakpoints with
  | some bps => bps.map (·.line)
  | none => args.lines.getD []

end SetBreakpoints

structure SetFunctionBreakpoints where
  breakpoints : List FunctionBreakpoint
deriving DecidableEq, Repr, Inhabited

def SetFunctionBreakpoints.decoder : Decoder SetFunctionBreakpoints :=
  Decode.record "SetFunctionBreakpoints"
    ((Decode.Fields.pure SetFunctionBreakpoints.mk).required "breakpoints"
      (Decode.list FunctionBreakpoint.decoder))

structure SetExceptionBreakpoints where
  filters : List String
  filterOptions : Option (List ExceptionFilterOptions)
deriving DecidableEq, Repr, Inhabited

def SetExceptionBreakpoints.decoder : Decoder SetExceptionBreakpoints :=
  Decode.record "SetExceptionBreakpoints" <|
    ((Decode.Fields.pure SetExceptionBreakpoints.mk).defaulted "filters" []
        (Decode.list Decode.string)
      |>.optional "filterOptions" (Decode.list ExceptionFilterOptions.decoder))

structure BreakpointLocations where
  source : Source
  line : Int
  column : Option Int
  endLine : Option Int
  endColumn : Option Int
deriving DecidableEq, Repr, Inhabited

def BreakpointLocations.decoder : Decoder BreakpointLocations :=
  Decode.record "BreakpointLocations" <|
    ((Decode.Fields.pure BreakpointLocations.mk).required "source" Source.decoder
      |>.required "line" Decode.int64
      |>.optional "column" Decode.int64
      |>.optional "endLine" Decode.int64
      |>.optional "endColumn" Decode.int64)

structure SetDataBreakpoints where
  breakpoints : List DataBreakpoint
deriving DecidableEq, Repr, Inhabited

def SetDataBreakpoints.decoder : Decoder SetDataBreakpoints :=
  Decode.record "SetDataBreakpoints"
    ((Decode.Fields.pure SetDataBreakpoints.mk).required "breakpoints"
      (Decode.list DataBreakpoint.decoder))

structure DataBreakpointInfo where
  variablesReference : Option Int
  name : String
  frameId : Option Int
deriving DecidableEq, Repr, Inhabited

def DataBreakpointInfo.decoder : Decoder DataBreakpointInfo :=
  Decode.record "DataBreakpointInfo" <|
    ((Decode.Fields.pure DataBreakpointInfo.mk).optional "variablesReference" Decode.int64
      |>.required "name" Decode.string
      |>.optional "frameId" Decode.int64)

structure SetInstructionBreakpoints where
  breakpoints : List InstructionBreakpoint
deriving DecidableEq, Repr, Inhabited

def SetInstructionBreakpoints.decoder : Decoder SetInstructionBreakpoints :=
  Decode.record "SetInstructionBreakpoints"
    ((Decode.Fields.pure SetInstructionBreakpoints.mk).required "breakpoints"
      (Decode.list InstructionBreakpoint.decoder))

structure ExceptionInfo where
  threadId : Option Int
deriving DecidableEq, Repr, Inhabited

def ExceptionInfo.decoder : Decoder ExceptionInfo :=
  Decode.record "ExceptionInfo"
    ((Decode.Fields.pure ExceptionInfo.mk).optional "threadId" Decode.int64)

structure StackTrace where
  threadId : Option Int
  startFrame : Option Nat
  levels : Option Nat
deriving DecidableEq, Repr, Inhabited

def StackTrace.decoder : Decoder StackTrace :=
  Decode.record "StackTrace" <|
    ((Decode.Fields.pure StackTrace.mk).optional "threadId" Decode.int64
      |>.optional "startFrame" Decode.size
      |>.optional "levels" Decode.size)

structure Scopes where
  frameId : Int
deriving DecidableEq, Repr, Inhabited

def Scopes.decoder : Decoder Scopes :=
  Decode.record "Scopes" ((Decode.Fields.pure Scopes.mk).required "frameId" Decode.int64)

structure Variables where
  variablesReference : Int
deriving DecidableEq, Repr, Inhabited

def Variables.decoder : Decoder Variables :=
  Decode.record "Variables"
    ((Decode.Fields.pure Variables.mk).required "variablesReference" Decode.int64)

structure Continue where
  threadId : Option Int
deriving DecidableEq, Repr, Inhabited

def Continue.decoder : Decoder Continue :=
  Decode.record "Continue" ((Decode.Fields.pure Continue.mk).optional "threadId" Decode.int64)

structure Next where
  threadId : Option Int
  granularity : Option Granularity
deriving DecidableEq, Repr, Inhabited

def Next.decoder : Decoder Next :=
  Decode.record "Next" <|
    ((Decode.Fields.pure Next.mk).optional "threadId" Decode.int64
      |>.optional "granularity" Granularity.decoder)

structure Evaluate where
  expression : String
  frameId : Option Int
  context : Option String
deriving DecidableEq, Repr, Inhabited

def Evaluate.decoder : Decoder Evaluate :=
  Decode.record "Evaluate" <|
    ((Decode.Fields.pure Evaluate.mk).required "expression" Decode.string
      |>.optional "frameId" Decode.int64
      |>.optional "context" Decode.string)

structure SetExpression where
  expression : String
  value : String
  frameId : Option Int
deriving DecidableEq, Repr, Inhabited

def SetExpression.decoder : Decoder SetExpression :=
  Decode.record "SetExpression" <|
    ((Decode.Fields.pure SetExpression.mk).required "expression" Decode.string
      |>.required "value" Decode.string
      |>.optional "frameId" Decode.int64)

structure Completions where
  text : String
  column : Int
  line : Option Int
  frameId : Option Int
deriving DecidableEq, Repr, Inhabited

def Completions.decoder : Decoder Completions :=
  Decode.record "Completions" <|
    ((Decode.Fields.pure Completions.mk).required "text" Decode.string
      |>.required "column" Decode.int64
      |>.optional "line" Decode.int64
      |>.optional "frameId" Decode.int64)

structure ReadMemory where
  memoryReference : String
  offset : Option Int
  count : Int
deriving DecidableEq, Repr, Inhabited

def ReadMemory.decoder : Decoder ReadMemory :=
  Decode.record "ReadMemory" <|
    ((Decode.Fields.pure ReadMemory.mk).required "memoryReference" Decode.string
      |>.optional "offset" Decode.int64
      |>.required "count" Decode.int64)

structure Cancel where
  requestId : Option Int
  progressId : Option String
deriving DecidableEq, Repr, Inhabited

def Cancel.decoder : Decoder Cancel :=
  Decode.record "Cancel" <|
    ((Decode.Fields.pure Cancel.mk).optional "requestId" Decode.int64
      |>.optional "progressId" Decode.string)

/-! ## Commands -/

/-- A command with the arguments it wants. -/
inductive Command where
  | handshake (args : Initialize)
  | configurationDone
  | launch (args : Launch)
  | attach (args : Launch)
  | disconnect (args : Disconnect)
  | terminate (args : Terminate)
  | setBreakpoints (args : SetBreakpoints)
  | setFunctionBreakpoints (args : SetFunctionBreakpoints)
  | setExceptionBreakpoints (args : SetExceptionBreakpoints)
  | breakpointLocations (args : BreakpointLocations)
  | setDataBreakpoints (args : SetDataBreakpoints)
  | dataBreakpointInfo (args : DataBreakpointInfo)
  | setInstructionBreakpoints (args : SetInstructionBreakpoints)
  | exceptionInfo (args : ExceptionInfo)
  | threads
  | stackTrace (args : StackTrace)
  | scopes (args : Scopes)
  | variables (args : Variables)
  | continue_ (args : Continue)
  | next (args : Next)
  | evaluate (args : Evaluate)
  | setExpression (args : SetExpression)
  | completions (args : Completions)
  | readMemory (args : ReadMemory)
  | cancel (args : Cancel)
  /-- Variables change between decimal and hexadecimal. -/
  | toggleFormatting
  | unknown (command : String)
deriving DecidableEq, Repr

namespace Request

/-- The arguments as a value of some type; no arguments are an empty object. -/
def argumentsAs {α : Type} (decoder : Decoder α) (r : Request) : Except DecodeError α :=
  match r.arguments with
  | .null => Decode.fromJson decoder (.object [])
  | arguments => Decode.fromJson decoder arguments

/-- The command of a request with its arguments. -/
def parse (r : Request) : Except DecodeError Command :=
  match r.command with
  | "initialize" => (r.argumentsAs Initialize.decoder).map .handshake
  | "configurationDone" => .ok .configurationDone
  | "launch" => (r.argumentsAs Launch.decoder).map .launch
  | "attach" => (r.argumentsAs Launch.decoder).map .attach
  | "disconnect" => (r.argumentsAs Disconnect.decoder).map .disconnect
  | "terminate" => (r.argumentsAs Terminate.decoder).map .terminate
  | "setBreakpoints" => (r.argumentsAs SetBreakpoints.decoder).map .setBreakpoints
  | "setFunctionBreakpoints" =>
    (r.argumentsAs SetFunctionBreakpoints.decoder).map .setFunctionBreakpoints
  | "setExceptionBreakpoints" =>
    (r.argumentsAs SetExceptionBreakpoints.decoder).map .setExceptionBreakpoints
  | "breakpointLocations" => (r.argumentsAs BreakpointLocations.decoder).map .breakpointLocations
  | "setDataBreakpoints" => (r.argumentsAs SetDataBreakpoints.decoder).map .setDataBreakpoints
  | "dataBreakpointInfo" => (r.argumentsAs DataBreakpointInfo.decoder).map .dataBreakpointInfo
  | "setInstructionBreakpoints" =>
    (r.argumentsAs SetInstructionBreakpoints.decoder).map .setInstructionBreakpoints
  | "exceptionInfo" => (r.argumentsAs ExceptionInfo.decoder).map .exceptionInfo
  | "threads" => .ok .threads
  | "stackTrace" => (r.argumentsAs StackTrace.decoder).map .stackTrace
  | "scopes" => (r.argumentsAs Scopes.decoder).map .scopes
  | "variables" => (r.argumentsAs Variables.decoder).map .variables
  | "continue" => (r.argumentsAs Continue.decoder).map .continue_
  | "next" => (r.argumentsAs Next.decoder).map .next
  | "evaluate" => (r.argumentsAs Evaluate.decoder).map .evaluate
  | "setExpression" => (r.argumentsAs SetExpression.decoder).map .setExpression
  | "completions" => (r.argumentsAs Completions.decoder).map .completions
  | "readMemory" => (r.argumentsAs ReadMemory.decoder).map .readMemory
  | "cancel" => (r.argumentsAs Cancel.decoder).map .cancel
  | "toggleFormatting" => .ok .toggleFormatting
  | other => .ok (.unknown other)

end Request

end DebugAdapter.Protocol
