import DebugAdapter.Control.Basic
import DebugAdapter.Protocol.Event
import DebugAdapter.Session.Address
import DebugAdapter.Session.Catalog
import DebugAdapter.Session.Handles
import DebugAdapter.Text.Base64
/-!
# Handling requests

What a session does with a request and with a notice of execution control. Every request but a
launch is answered at once. A launch is put off until the editor has finished its configuration or
has taken too long for it, and is answered when the start is done.
-/

namespace DebugAdapter.Session

open Protocol

/-- What a handle stands for. -/
inductive Container where
  | locals
  | parameters
  | globals
  | variable_ (x : Program.Variable)
deriving Repr, Inhabited

/-- How far a launch has come. -/
inductive LaunchStage where
  /-- It waits for the end of the configuration, but not for ever. -/
  | waiting (due : Millis)
  /-- It waits for an errand. -/
  | starting (errand : Nat)
deriving DecidableEq, Repr, Inhabited

/-- A launch that is not answered. -/
structure PendingLaunch where
  request : Request
  args : Launch
  stage : LaunchStage
deriving Repr, Inhabited

/-- The handler of a session's requests. -/
structure Handler where
  control : Control
  /-- How long a launch waits for the end of the configuration. -/
  patience : Millis := 1000
  /-- Whether the editor has finished its configuration. -/
  configured : Bool := false
  /-- The numbers of the requests that were cancelled. -/
  cancelled : List Int := []
  handles : Handles Container := {}
  /-- Whether integers are shown in hexadecimal. -/
  hex : Bool := false
  /-- Whether the editor wants to know when variables have to be read again. -/
  invalidates : Bool := false
  launches : List PendingLaunch := []
  /-- How many errands launches have given. -/
  errands : Nat := 0
  /-- What has not been written to the editor. -/
  outbox : List Outgoing := []
  /-- Whether nothing more is written than what is in the outbox. -/
  closed : Bool := false
deriving Inhabited

namespace Handler

/-! ## Answers -/

/-- A message for the editor; after the close it is dropped. -/
def send (h : Handler) (m : Outgoing) : Handler :=
  if h.closed then h else { h with outbox := h.outbox ++ [m] }

/-- A response. -/
def respond (h : Handler) (r : Response) : Handler := h.send (.response r)

/-- A success with a body. -/
def succeed (h : Handler) (r : Request) (body : ResponseBody) : Handler :=
  h.respond (.ok r body)

/-- A success without a body. -/
def acknowledge (h : Handler) (r : Request) : Handler := h.respond (.ack r)

/-- A failure with an error. -/
def refuse (h : Handler) (r : Request) (m : ErrorMessage) : Handler := h.respond (.error r m)

/-- An event. -/
def announce (h : Handler) (e : Event) : Handler := h.send (.event e)

/-- With a change to execution control. -/
def withControl (h : Handler) (f : Control → Control) : Handler :=
  { h with control := f h.control }

/-- With a change to the breakpoints. -/
def withBreakpoints (h : Handler) (f : Program.Breakpoints → Program.Breakpoints) : Handler :=
  h.withControl (·.withBreakpoints f)

/-! ## Notices -/

/-- The name of a reason to stop. -/
def stopName : Control.StopReason → String
  | .entry => "entry"
  | .step => "step"
  | .breakpoint => "breakpoint"
  | .instructionBreakpoint => "instruction breakpoint"

/-- An output event. A text that names the start or the end of a group marks that group. -/
def outputOf (category : Control.Category) (text : String) : Output :=
  let group := OutputGroup.ofName? text
  { category := some category.name
    output := if group.isSome then "group-" ++ text ++ "\n" else text ++ "\n"
    group }

/-- A notice is passed on. What was handed out before a stop describes the program as it was, so
every handle is forgotten. -/
def notice (h : Handler) : Control.Notice → Handler
  | .stopped reason =>
    { h with handles := h.handles.reset }.announce
      (.stopped { reason := stopName reason, threadId })
  | .output category text => h.announce (.output (outputOf category text))
  | .ended => h.announce .terminated

/-! ## Launches -/

/-- A launch is put off. -/
def launch (h : Handler) (now : Millis) (r : Request) (args : Launch) : Handler :=
  { h with launches :=
      h.launches ++ [{ request := r, args, stage := .waiting (now + h.patience) }] }

/-- A launch that has been put off goes on, unless it was cancelled or has no program. -/
def resume (h : Handler) (i : Nat) (p : PendingLaunch) : Handler :=
  let rest := { h with launches := h.launches.eraseIdx i }
  if h.cancelled.contains p.request.seq then
    { rest with cancelled := h.cancelled.filter (· ≠ p.request.seq) }.respond
      (.failure p.request "cancelled")
  else
    match p.args.program with
    | none => rest.refuse p.request noProgram
    | some program =>
      let errand := Control.Errand.start program (p.args.stopOnEntry.getD false)
        (!p.args.noDebug.getD false)
      { h with
        control := h.control.request errand (some h.errands)
        errands := h.errands + 1
        launches := h.launches.set i { p with stage := .starting h.errands } }

/-- The launch at a place goes on if its wait is over: because the configuration is finished, or has
taken too long, or because nobody is left to finish it. -/
def resume? (h : Handler) (now : Millis) (abandoned : Bool) (i : Nat) : Option Handler := do
  let p ← h.launches[i]?
  match p.stage with
  | .waiting due => if h.configured || abandoned || due ≤ now then some (h.resume i p) else none
  | .starting _ => none

/-- The answer to a launch whose start is done. -/
def launchResponse (p : PendingLaunch) : Response :=
  match p.args.compileError with
  | some e => .error p.request (pretendedCompileError e)
  | none => .ack p.request

/-- The launch at a place is answered if its start is done. -/
def complete? (h : Handler) (i : Nat) : Option Handler := do
  let p ← h.launches[i]?
  match p.stage with
  | .starting errand =>
    if h.control.done.contains errand then
      some ({ h with launches := h.launches.eraseIdx i }.respond (launchResponse p))
    else none
  | .waiting _ => none

/-! ## Breakpoints -/

/-- The breakpoint that is reported for one on a line. -/
def lineBreakpoint (b : Program.LineBreakpoint) : Breakpoint :=
  { id := some b.id, verified := b.verified, line := some b.line }

/-- Breakpoints on some lines of a file, with what is reported for them. -/
def setLines (path : String) :
    List Int → Program.Breakpoints → List Breakpoint × Program.Breakpoints
  | [], bs => ([], bs)
  | line :: lines, bs =>
    let (b, bs) := bs.setLine path line
    let (reported, bs) := setLines path lines bs
    (lineBreakpoint b :: reported, bs)

/-- The breakpoints of a file are replaced. -/
def setBreakpoints (h : Handler) (r : Request) (args : SetBreakpoints) : Handler :=
  match args.source.path with
  | none => h.succeed r (.breakpoints [])
  | some path =>
    let (reported, bs) := setLines path args.requestedLines (h.control.breakpoints.clearFile path)
    (h.withBreakpoints fun _ => bs).succeed r (.breakpoints reported)

/-- The access that a data breakpoint asks for: to write, unless it says otherwise. -/
def accessOf : Option AccessType → Program.DataAccess
  | some .read => .read
  | some .readWrite => .readWrite
  | some .write | none => .write

/-- The data breakpoints are replaced. -/
def setDataBreakpoints (h : Handler) (r : Request) (args : SetDataBreakpoints) : Handler :=
  let set := fun (bs : Program.Breakpoints) (b : DataBreakpoint) =>
    bs.setData b.dataId (accessOf b.accessType)
  (h.withBreakpoints fun bs => args.breakpoints.foldl set bs.clearData).succeed r
    (.breakpoints (args.breakpoints.map fun _ => { verified := true }))

/-- The instruction that a breakpoint is to be set on. -/
def instructionOf? (b : InstructionBreakpoint) : Option Int :=
  (parseAddress? b.instructionReference).map (· + b.offset.getD 0)

/-- The instruction breakpoints are replaced. -/
def setInstructionBreakpoints (h : Handler) (r : Request) (args : SetInstructionBreakpoints) :
    Handler :=
  let set := fun (bs : Program.Breakpoints) (address : Int) => bs.setInstruction address
  let addresses := args.breakpoints.filterMap instructionOf?
  (h.withBreakpoints fun bs => addresses.foldl set bs.clearInstructions).succeed r
    (.breakpoints (args.breakpoints.map fun b => { verified := (instructionOf? b).isSome }))

/-- Where breakpoints may be set on a line. -/
def breakpointLocations (h : Handler) (r : Request) (args : BreakpointLocations) : Handler :=
  h.succeed r (.breakpointLocations (
    match args.source.path with
    | some _ =>
      Control.breakpointColumns.map fun column => { line := args.line, column := some column }
    | none => []))

/-- The accesses that can stop the program at something in a container. -/
def accessTypes : Option Container → List AccessType
  | some .globals => [.write]
  | _ => [.read, .write, .readWrite]

/-- Whether data can be broken on: only what has a name and stands in a container. -/
def dataBreakpointInfo (h : Handler) (r : Request) (args : DataBreakpointInfo) : Handler :=
  h.succeed r (
    match args.variablesReference.filter (· ≠ 0) with
    | some reference =>
      if args.name.isEmpty then
        .dataBreakpointInfo none "cannot break on data access" none (some false)
      else
        .dataBreakpointInfo (some args.name) args.name
          (some (accessTypes (h.handles.get? reference))) (some true)
    | none => .dataBreakpointInfo none "cannot break on data access" none (some false))

/-! ## The stack and the variables -/

/-- A source file. -/
def sourceOf (path : String) : Source := { name := Path.fileName? path, path := some path }

/-- A frame of the stack. -/
def stackFrame (f : Program.Frame) : StackFrame :=
  { id := f.index, name := f.name, source := some (sourceOf f.file), line := f.line, column := 0
    instructionPointerReference := f.instruction.map toString }

/-- A page of the stack. No number of levels, or none at all, asks for the rest. -/
def stackTrace (h : Handler) (r : Request) (args : StackTrace) : Handler :=
  let frames := h.control.frames
  let levels := (args.levels.filter (0 < ·)).getD frames.length
  let page := (frames.drop (args.startFrame.getD 0)).take levels
  h.succeed r (.stackTrace (page.map stackFrame) frames.length)

/-- The scopes, each under a handle of its own. -/
def scopes (h : Handler) (r : Request) : Handler :=
  let (localsHandle, handles) := h.handles.create .locals
  let (parametersHandle, handles) := handles.create .parameters
  let (globalsHandle, handles) := handles.create .globals
  { h with handles }.succeed r (.scopes
    [{ name := "Locals", variablesReference := localsHandle, expensive := false
       presentationHint := some "locals" },
     { name := "Parameters", variablesReference := parametersHandle, expensive := false
       presentationHint := some "arguments" },
     { name := "Globals", variablesReference := globalsHandle, expensive := true
       presentationHint := none }])

/-- A value as it is shown, and the name of its type. -/
def shownValue (hex : Bool) : Program.Value → String × String
  | .integer n => (numberText hex n, "integer")
  | .float x => (x.plainText, "float")
  | .string s => ("\"" ++ s ++ "\"", "string")
  | .boolean b => (if b then "true" else "false", "boolean")
  | .list _ => ("Object", "list")

/-- Whether a variable has items. -/
def isExpandable (x : Program.Variable) : Bool :=
  match x.value with
  | .list _ => true
  | _ => false

/-- A variable as it is shown. It gets a handle if it has items or octets. -/
def showVariable (hex : Bool) (handles : Handles Container) (x : Program.Variable) :
    Variable × Handles Container :=
  let (value, type) := shownValue hex x.value
  let shown : Variable :=
    { name := x.name, value, type := some type, variablesReference := 0
      evaluateName := some ("$" ++ x.name) }
  if isExpandable x || x.hasMemory then
    let (handle, handles) := handles.create (.variable_ x)
    ({ shown with
        variablesReference := if isExpandable x then handle else 0
        memoryReference := if x.hasMemory then some (toString handle) else none }, handles)
  else (shown, handles)

/-- Variables as they are shown, in order. -/
def showVariables (hex : Bool) (handles : Handles Container) :
    List Program.Variable → List Variable × Handles Container
  | [] => ([], handles)
  | x :: rest =>
    let (shown, handles) := showVariable hex handles x
    let (others, handles) := showVariables hex handles rest
    (shown :: others, handles)

/-- What stands in a container. -/
def contents (c : Control) : Option Container → List Program.Variable
  | some .locals => c.locals
  | some .parameters => c.parameters
  | some (.variable_ x) => x.children
  | some .globals | none => []

/-- The variables in a container. -/
def listVariables (h : Handler) (r : Request) (args : Variables) : Handler :=
  let xs := contents h.control (h.handles.get? args.variablesReference)
  let (shown, handles) := showVariables h.hex h.handles xs
  { h with handles }.succeed r (.variables shown)

/-- The octets under a reference, and the handles afterwards. -/
def octetsOf (handles : Handles Container) (reference : String) :
    Option Bytes × Handles Container :=
  match Text.readInt64 reference with
  | .error _ => (none, handles)
  | .ok handle =>
    match handles.get? handle with
    | some (.variable_ x) =>
      let (octets, x) := x.memory
      (octets, handles.set handle (.variable_ x))
    | _ => (none, handles)

/-- A part of the octets of a variable; those that are not there are counted. -/
def readMemory (h : Handler) (r : Request) (args : ReadMemory) : Handler :=
  let offset := (args.offset.getD 0).toNat
  let count := args.count.toNat
  let (octets, handles) := octetsOf h.handles args.memoryReference
  let part := ((octets.getD []).drop offset).take count
  { h with handles }.succeed r
    (.memory (toString offset) (Text.base64 part) (count - part.length : Nat))

/-! ## Expressions -/

/-- What is answered when there is no result yet. -/
def echo (expression : String) (context : Option String) : String :=
  "evaluate(context: '" ++ context.getD "undefined" ++ "', '" ++ expression ++ "')"

/-- An expression is evaluated. -/
def evaluate (h : Handler) (r : Request) (args : Evaluate) : Handler :=
  let (result, control) := h.control.evaluate args.expression args.context
  { h with control }.succeed r
    (.evaluated (result.getD (echo args.expression args.context)) 0
      (some { kind := some "data", attributes := some ["readOnly"] }))

/-! ## Dispatch -/

/-- How far a `next` goes. -/
def granularityOf : Option Granularity → Control.Granularity
  | some .instruction => .instruction
  | some .statement | some .line | none => .line

/-- The way of showing integers changes. -/
def toggleFormatting (h : Handler) (r : Request) : Handler :=
  let h := { h with hex := !h.hex }
  (if h.invalidates then h.announce (.invalidated ["variables"]) else h).acknowledge r

/-- A command is carried out. -/
def carryOut (h : Handler) (now : Millis) (r : Request) : Command → Handler
  | .handshake args =>
    ({ h with invalidates := args.supportsInvalidatedEvent.getD false }.succeed r
      (.capabilities capabilities)).announce .initialized
  | .configurationDone => { h with configured := true }.acknowledge r
  | .launch args | .attach args => h.launch now r args
  | .disconnect args =>
    (if args.terminateDebuggee = some true then h.withControl (·.terminate) else h).acknowledge r
  | .terminate _ => (h.withControl (·.terminate)).acknowledge r
  | .setBreakpoints args => h.setBreakpoints r args
  | .setFunctionBreakpoints args =>
    h.succeed r (.breakpoints (args.breakpoints.map fun _ => {}))
  | .setExceptionBreakpoints _ => h.acknowledge r
  | .breakpointLocations args => h.breakpointLocations r args
  | .setDataBreakpoints args => h.setDataBreakpoints r args
  | .dataBreakpointInfo args => h.dataBreakpointInfo r args
  | .setInstructionBreakpoints args => h.setInstructionBreakpoints r args
  | .exceptionInfo _ => h.succeed r exceptionInfo
  | .threads => h.succeed r (.threads [mainThread])
  | .stackTrace args => h.stackTrace r args
  | .scopes _ => h.scopes r
  | .variables args => h.listVariables r args
  | .continue_ _ => (h.withControl (·.request .resume none)).succeed r (.continued true)
  | .next args =>
    (h.withControl (·.request (.step (granularityOf args.granularity)) none)).acknowledge r
  | .evaluate args => h.evaluate r args
  | .setExpression args => h.refuse r (notAssignable args.expression)
  | .completions _ => h.succeed r (.completions completions)
  | .readMemory args => h.readMemory r args
  | .cancel args => { h with cancelled := h.cancelled ++ args.requestId.toList }.acknowledge r
  | .toggleFormatting => h.toggleFormatting r
  | .unknown _ => h.refuse r unrecognized

/-- Whether a command ends the session. -/
def isFarewell : Command → Bool
  | .disconnect _ => true
  | _ => false

/-- A request is handled; whether it ends the session is also returned. -/
def handle (h : Handler) (now : Millis) (r : Request) : Handler × Bool :=
  match r.parse with
  | .error e => (h.refuse r (invalidArguments e.message), false)
  | .ok c => (h.carryOut now r c, isFarewell c)

end Handler

end DebugAdapter.Session
