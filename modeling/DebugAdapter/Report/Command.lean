import DebugAdapter.Protocol.Request
import DebugAdapter.Report.Basic
/-!
# Reports of commands

What a request asks for, field by field.
-/

namespace DebugAdapter.Report

/-- The fields of a launch. -/
def launchFields (a : Protocol.Launch) : List (String × Json) :=
  [("program", text a.program), ("stop_on_entry", bool a.stopOnEntry),
    ("no_debug", bool a.noDebug), ("trace", bool a.trace),
    ("compile_error", text (a.compileError.map (·.name)))]

/-- The name of a command, and its fields. -/
def commandFields : Protocol.Command → String × List (String × Json)
  | .handshake a => ("initialize",
      [("adapter_id", text a.adapterId),
        ("lines_start_at_one", bool a.linesStartAtOne),
        ("supports_invalidated_event", bool a.supportsInvalidatedEvent),
        ("supports_memory_references", bool a.supportsMemoryReferences)])
  | .configurationDone => ("configurationDone", [])
  | .launch a => ("launch", launchFields a)
  | .attach a => ("attach", launchFields a)
  | .disconnect a => ("disconnect",
      [("restart", bool a.restart), ("terminate_debuggee", bool a.terminateDebuggee)])
  | .terminate a => ("terminate", [("restart", bool a.restart)])
  | .setBreakpoints a => ("setBreakpoints",
      [("source", a.source.encode),
        ("breakpoints", orNull (list Protocol.SourceBreakpoint.encode) a.breakpoints),
        ("lines", orNull (list Json.int) a.lines),
        ("source_modified", bool a.sourceModified)])
  | .setFunctionBreakpoints a => ("setFunctionBreakpoints",
      [("breakpoints", list Protocol.FunctionBreakpoint.encode a.breakpoints)])
  | .setExceptionBreakpoints a => ("setExceptionBreakpoints",
      [("filters", Json.strings a.filters),
        ("filter_options", orNull (list Protocol.ExceptionFilterOptions.encode) a.filterOptions)])
  | .breakpointLocations a => ("breakpointLocations",
      [("source", a.source.encode), ("line", Json.int a.line), ("column", int a.column),
        ("end_line", int a.endLine), ("end_column", int a.endColumn)])
  | .setDataBreakpoints a => ("setDataBreakpoints",
      [("breakpoints", list Protocol.DataBreakpoint.encode a.breakpoints)])
  | .dataBreakpointInfo a => ("dataBreakpointInfo",
      [("variables_reference", int a.variablesReference), ("name", .string a.name),
        ("frame_id", int a.frameId)])
  | .setInstructionBreakpoints a => ("setInstructionBreakpoints",
      [("breakpoints", list Protocol.InstructionBreakpoint.encode a.breakpoints)])
  | .exceptionInfo a => ("exceptionInfo", [("thread_id", int a.threadId)])
  | .threads => ("threads", [])
  | .stackTrace a => ("stackTrace",
      [("thread_id", int a.threadId), ("start_frame", nat a.startFrame),
        ("levels", nat a.levels)])
  | .scopes a => ("scopes", [("frame_id", Json.int a.frameId)])
  | .variables a => ("variables", [("variables_reference", Json.int a.variablesReference)])
  | .continue_ a => ("continue", [("thread_id", int a.threadId)])
  | .next a => ("next",
      [("thread_id", int a.threadId),
        ("granularity", text (a.granularity.map (·.name)))])
  | .evaluate a => ("evaluate",
      [("expression", .string a.expression), ("frame_id", int a.frameId),
        ("context", text a.context)])
  | .setExpression a => ("setExpression",
      [("expression", .string a.expression), ("value", .string a.value),
        ("frame_id", int a.frameId)])
  | .completions a => ("completions",
      [("text", .string a.text), ("column", Json.int a.column), ("line", int a.line),
        ("frame_id", int a.frameId)])
  | .readMemory a => ("readMemory",
      [("memory_reference", .string a.memoryReference), ("offset", int a.offset),
        ("count", Json.int a.count)])
  | .cancel a => ("cancel",
      [("request_id", int a.requestId), ("progress_id", text a.progressId)])
  | .toggleFormatting => ("toggleFormatting", [])
  | .unknown command => ("unknown", [("command", .string command)])

/-- A command. -/
def command (c : Protocol.Command) : Json :=
  let (kind, fields) := commandFields c
  .object (("kind", .string kind) :: fields)

end DebugAdapter.Report
