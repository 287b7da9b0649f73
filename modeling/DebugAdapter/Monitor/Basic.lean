import DebugAdapter.Channel.Basic
import DebugAdapter.Interpreter.Script
import DebugAdapter.Program.Snapshot
/-!
# The monitor of a running interpreter

A monitor asks a running interpreter at a fixed period where it is, and keeps the answers in a
snapshot. Each round of questions is a tick: its registers, stack and call stack are noted as they
come in, its state last, when all four questions are settled. Who has made the interpreter execute
an instruction waits for a tick that began after the command.
-/

namespace DebugAdapter

open Channel (RequestError Status)
open Interpreter
  (ConsoleOut Context DebugInfo Instruction Message Registers Severity StackDump State)
open Program (Snapshot)

namespace Monitor

/-- How an interpreter is run and watched. -/
structure Config where
  /-- The period of the questions. -/
  pollInterval : Millis := 1000
  /-- How long the compiled code is not asked for. -/
  codeDelay : Millis := 1000
  /-- How long a fresh status is waited for. -/
  statusTimeout : Millis := 5000
  /-- How long the compiled code is waited for. -/
  codeTimeout : Millis := 5000
  /-- What the interpreter is given before the program. -/
  arguments : List String := ["--debug", "--throw-errors", "--no-pause"]
  channel : Channel.Config := {}
deriving DecidableEq, Repr, Inhabited

/-- What the interpreter is given to run a program. -/
def Config.argumentsFor (config : Config) (program : String) : List String :=
  config.arguments ++ ["\"" ++ program ++ "\""]

/-- The four questions of a tick. -/
inductive Part where
  | registers
  | stack
  | callStack
  | state
deriving DecidableEq, Repr, Inhabited

/-- A question to the interpreter. -/
inductive Query where
  | part (tick : Nat) (p : Part)
  | debugInfo
  | code
deriving DecidableEq, Repr, Inhabited

/-- The type of the message that asks a question. -/
def Query.type : Query → String
  | .part _ .registers => Interpreter.registersQuery
  | .part _ .stack => Interpreter.stackQuery
  | .part _ .callStack => Interpreter.callStackQuery
  | .part _ .state => Interpreter.stateQuery
  | .debugInfo => Interpreter.debugInfoQuery
  | .code => Interpreter.codeQuery

/-- What a monitor reports. -/
inductive Event where
  | spawned
  | console (message : String) (severity : Severity) (context : Option Context)
  | stdout (text : String)
  | stderr (text : String)
  | message (type : String) (data : Json)
  /-- Something that could not be made sense of. -/
  | unknown (text : String)
  /-- The program has been executed. -/
  | done
  | closed (code : Option Int)
  /-- The interpreter was found dead. -/
  | failed (text : String)
deriving Repr

/-- A tick whose questions are not all settled. -/
structure Refresh where
  tick : Nat
  waiting : List Part
  state : Option State := none
deriving DecidableEq, Repr, Inhabited

/-- How far the compiled code has been fetched. -/
inductive CodeFetch where
  | waiting (due : Millis)
  /-- The answers so far; the inner option is an answer that could be read. -/
  | asked (debugInfo : Option (Option (List DebugInfo))) (code : Option (Option (List Instruction)))
  | over
deriving DecidableEq, Repr, Inhabited

/-- Why an instruction was not executed. -/
inductive ExecuteError where
  | timeout (after : Millis)
  | notRunning
deriving DecidableEq, Repr

/-- How an error is reported. -/
def ExecuteError.message : ExecuteError → String
  | .timeout after => "Debugger timed out (" ++ toString after ++ " ms)"
  | .notRunning => "interpreter is not running"

/-- Why no interpreter can be launched. -/
inductive Refusal where
  | notFound
  /-- The settings in some file name none. -/
  | unconfigured (settings : String)
deriving DecidableEq, Repr

/-- How a refusal is reported. -/
def Refusal.message : Refusal → String
  | .notFound => "interpreter not found"
  | .unconfigured settings => "interpreter not found, set \"interpreterPath\" in " ++ settings

/-- Why a start failed. -/
inductive StartError where
  | refused (reason : Refusal)
  /-- The interpreter did not report a status in time. -/
  | silent (after : Millis)
deriving DecidableEq, Repr

/-- How a failed start is reported. -/
def StartError.message : StartError → String
  | .refused reason => "starting interpreter: " ++ reason.message
  | .silent after => "waiting for first status: " ++ (ExecuteError.timeout after).message

end Monitor

open Monitor

/-- A monitor. -/
structure Monitor where
  config : Monitor.Config
  snapshot : Snapshot := {}
  doneReported : Bool := false
  /-- How many ticks have begun. -/
  ticksStarted : Nat := 0
  /-- The latest tick whose state has been noted. -/
  refreshed : Nat := 0
  /-- Whether nobody has to wait for the compiled code any more. -/
  codeSettled : Bool := false
  disposed : Bool := false
  /-- When the next tick begins. -/
  nextPoll : Option Millis
  fetch : CodeFetch
  refreshes : List Refresh := []
deriving DecidableEq, Repr, Inhabited

namespace Monitor

/-- The monitor of an interpreter that is started now. -/
def start (config : Config) (now : Millis) : Monitor :=
  { config
    nextPoll := some (now + config.pollInterval)
    fetch := .waiting (now + config.codeDelay) }

/-! ## Reports -/

/-- A text pushed by the interpreter: a string is its own text, anything else its JSON text. -/
def pushedText : Json → String
  | .string s => s
  | v => v.text

/-- What a message reports that answers no question. -/
def eventOfMessage (m : Message) : Event :=
  match m.type with
  | "console/out" =>
    match m.payload ConsoleOut.decoder with
    | .ok out => .console out.message out.severity (out.context.bind (·.context?))
    | .error _ => .unknown m.data.text
  | "stdout" => .stdout (pushedText m.data)
  | "stderr" => .stderr (pushedText m.data)
  | type => .message type m.data

/-- What an event of the channel reports, if anything. -/
def eventOfChannel? : Channel.Event → Option Event
  | .spawned => some .spawned
  | .exited _ => none
  | .closed code => some (.closed code)
  | .failed text => some (.unknown text)
  | .complaint text => some (.unknown text)
  | .unreadable raw => some (.unknown raw)
  | .message m => some (eventOfMessage m)

/-- An exit code in a report. -/
def exitText : Status → String
  | .exited (some code) => toString code
  | .exited none | .killed | .running => "unknown"

/-! ## Ticks -/

/-- The parts of a tick, in the order in which they are asked for. -/
def parts : List Part := [.registers, .stack, .callStack, .state]

/-- The time for a tick has come: its questions, unless the interpreter is found dead, which ends
the polling. -/
def poll (m : Monitor) (now : Millis) (status : Status) : Monitor × List Query × List Event :=
  match m.nextPoll with
  | none => (m, [], [])
  | some due =>
    if status = .running then
      let tick := m.ticksStarted + 1
      let next := if due + 5 < now then now else due
      ({ m with
          ticksStarted := tick
          nextPoll := some (next + m.config.pollInterval)
          refreshes := m.refreshes ++ [{ tick, waiting := parts }] },
        parts.map (.part tick), [])
    else
      ({ m with nextPoll := none }, [],
        [.failed ("Process exited with code " ++ exitText status)])

/-- An answer as a value of some type, if it is one. -/
def read? {α : Type} (decoder : Decoder α) : Except RequestError Json → Option α
  | .ok data => (Decode.fromJson decoder data).toOption
  | .error _ => none

/-- An answer to one of the first three questions is noted as soon as it comes. -/
def noteDetail (s : Snapshot) (p : Part) (answer : Except RequestError Json) : Snapshot :=
  match p with
  | .registers => ((read? Registers.decoder answer).map s.withRegisters).getD s
  | .stack => ((read? StackDump.decoder answer).map s.withStack).getD s
  | .callStack => ((read? (Decode.list Decode.string) answer).map s.withCallStack).getD s
  | .state => s

/-- The tick with one more question settled. -/
def Refresh.settle (r : Refresh) (p : Part) (answer : Except RequestError Json) : Refresh :=
  { r with
    waiting := r.waiting.erase p
    state := if p = .state then read? State.decoder answer else r.state }

/-- The state of a tick is noted; the first time that the program has been executed is reported. -/
def noteState (m : Monitor) (tick : Nat) (state : State) : Monitor × List Event :=
  let done := state.isTerminal && !m.doneReported
  ({ m with
      snapshot := { m.snapshot with state }
      doneReported := m.doneReported || done
      refreshed := max m.refreshed tick }, if done then [.done] else [])

/-- A tick that has been settled counts if its state could be read. -/
def conclude (m : Monitor) (r : Refresh) : Monitor × List Event :=
  if r.waiting.isEmpty then
    let m := { m with refreshes := m.refreshes.filter (·.tick ≠ r.tick) }
    match r.state with
    | some state => m.noteState r.tick state
    | none => (m, [])
  else
    ({ m with refreshes := m.refreshes.map fun x => if x.tick = r.tick then r else x }, [])

/-! ## The compiled code -/

/-- The time to ask for the compiled code has come. -/
def fetchCode (m : Monitor) (status : Status) : Monitor × List Query :=
  if status = .running then ({ m with fetch := .asked none none }, [.debugInfo, .code])
  else ({ m with fetch := .over, codeSettled := true }, [])

/-- Both answers are noted together. -/
def noteCode (m : Monitor) (info : Option (Option (List DebugInfo)))
    (code : Option (Option (List Instruction))) : Monitor :=
  match info, code with
  | some info, some code =>
    { m with
      snapshot := { m.snapshot with
        debugInfo := info.getD m.snapshot.debugInfo
        code := code.or m.snapshot.code }
      fetch := .over
      codeSettled := true }
  | info, code => { m with fetch := .asked info code }

/-! ## Answers -/

/-- An answer to a question. -/
def answer (m : Monitor) (q : Query) (a : Except RequestError Json) : Monitor × List Event :=
  match q with
  | .part tick p =>
    let m := { m with snapshot := noteDetail m.snapshot p a }
    match m.refreshes.find? (·.tick = tick) with
    | some r => m.conclude (r.settle p a)
    | none => (m, [])
  | .debugInfo =>
    match m.fetch with
    | .asked _ code => (m.noteCode (some (read? (Decode.list DebugInfo.decoder) a)) code, [])
    | _ => (m, [])
  | .code =>
    match m.fetch with
    | .asked info _ => (m.noteCode info (some (read? (Decode.list Instruction.decoder) a)), [])
    | _ => (m, [])

/-- How long a question waits for its answer. -/
def patience (m : Monitor) : Query → Millis
  | .part .. => m.config.statusTimeout
  | .debugInfo | .code => m.config.codeTimeout

/-- The monitor stops asking. -/
def dispose (m : Monitor) : Monitor :=
  { m with disposed := true, nextPoll := none, fetch := .over, codeSettled := true }

/-- Someone who waits for a tick that begins after `issued`. -/
structure Waiter where
  issued : Nat
  due : Millis
deriving DecidableEq, Repr, Inhabited

/-- Whether the tick that someone waits for has been noted. -/
def hasRefreshed (m : Monitor) (w : Waiter) : Bool := w.issued < m.refreshed

end Monitor

end DebugAdapter
