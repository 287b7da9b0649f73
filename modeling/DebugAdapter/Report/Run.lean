import DebugAdapter.Control.Notice
import DebugAdapter.Monitor.Debuggee
import DebugAdapter.Report.Program
/-!
# Reports of runs

What happened on a channel, to a monitored interpreter, and under execution control.
-/

namespace DebugAdapter.Report

open Interpreter (Message)

/-- What has become of an interpreter. -/
def status : Channel.Status → Json
  | .running => .string "running"
  | .killed => .string "killed"
  | .exited code => .object [("exited", int code)]

/-- An event of a channel. -/
def channelEvent : Channel.Event → Json
  | .spawned => .string "spawned"
  | .exited code => .object [("exited", int code)]
  | .closed code => .object [("closed", int code)]
  | .failed text => .object [("error", .string text)]
  | .complaint text => .object [("error_message", .string text)]
  | .unreadable raw => .object [("unknown_message", .string raw)]
  | .message m => .object [("message", m.encode)]

/-- The kind of a request's error. -/
def requestErrorKind : Channel.RequestError → String
  | .timeout .. => "timeout"
  | .closed => "closed"

/-- What became of a request. -/
def resolved (n : Nat) : Except Channel.RequestError Json → Json
  | .ok data => .object [("request", Json.nat n), ("data", data)]
  | .error e =>
    .object [("request", Json.nat n), ("error", .string (requestErrorKind e)),
      ("message", .string e.message)]

/-- Whether a message was queued. -/
def queued (queued : Bool) : Json :=
  if queued then .string "queued" else failure "closed" Channel.RequestError.closed.message

/-- An event of a monitor. -/
def monitorEvent : Monitor.Event → Json
  | .spawned => .string "spawned"
  | .console message severity place =>
    .object [("console", .string message), ("severity", severity.encode),
      ("context", orNull context place)]
  | .stdout text => .object [("stdout", .string text)]
  | .stderr text => .object [("stderr", .string text)]
  | .message type data => .object [("message", .string type), ("data", data)]
  | .unknown text => .object [("unknown_message", .string text)]
  | .done => .string "done"
  | .closed code => .object [("closed", int code)]
  | .failed text => .object [("error", .string text)]

/-- Why an instruction was not executed. -/
def executeError (e : Monitor.ExecuteError) : Json :=
  failure (match e with
    | .timeout _ => "wait_timeout"
    | .notRunning => "not_running") e.message

/-- What is known about a monitored interpreter. -/
def debuggee (d : Debuggee) : Json :=
  let s := d.snapshot
  .object
    [("label", .string s.statusLabel), ("icon", text s.state.icon?),
      ("running", .bool d.isRunning), ("running_code", .bool s.state.isRunningCode),
      ("bp", Json.int s.basePointer), ("cp", Json.int s.codePointer)]

/-- The name of a stop. -/
def stopName : Control.StopReason → String
  | .entry => "stop_on_entry"
  | .step => "stop_on_step"
  | .breakpoint => "stop_on_breakpoint"
  | .instructionBreakpoint => "stop_on_instruction_breakpoint"

/-- A notice of execution control. -/
def notice : Control.Notice → Json
  | .stopped reason => .string (stopName reason)
  | .output category text =>
    .object [("output", .string text), ("category", .string category.name)]
  | .ended => .string "end"

end DebugAdapter.Report
