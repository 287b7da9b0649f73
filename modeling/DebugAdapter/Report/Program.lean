import DebugAdapter.Program.Breakpoints
import DebugAdapter.Program.Snapshot
import DebugAdapter.Report.Basic
/-!
# Reports of programs

What is known about a program: its state, its stacks, its variables, its breakpoints.
-/

namespace DebugAdapter.Report

open Interpreter (CallFrame Context DataItem DebugInfo Instruction Tag)

/-- A frame of the call stack. -/
def callFrame : CallFrame → Json
  | .state name => .object [("state", .string name)]
  | .source name file offset line =>
    .object [("name", .string name), ("file", .string file), ("offset", Json.int offset),
      ("line", Json.int line)]

/-- A place in the program. -/
def context (c : Context) : Json :=
  .object [("code_pointer", Json.int c.codePointer), ("call_stack", list callFrame c.callStack)]

/-- A tag. -/
def tag : Tag → Json
  | .var name => .object [("variable", .string name)]
  | .param name => .object [("parameter", .string name)]
  | .other text => .object [("other", .string text)]

/-- What is known about a program. -/
def snapshot (s : Program.Snapshot) : Json :=
  .object
    [("state", s.state.encode), ("base_pointer", Json.int s.basePointer),
      ("code_pointer", Json.int s.codePointer),
      ("stack", orNull (list DataItem.encode) s.stack),
      ("call_stack", orNull (list callFrame) s.callStack),
      ("compiled_code", orNull (list Instruction.encode) s.code),
      ("debug_info", list DebugInfo.encode s.debugInfo),
      ("label", .string s.statusLabel)]

/-- A frame of the stack as the user sees it. -/
def stackFrame (f : Program.Frame) : Json :=
  .object [("index", Json.nat f.index), ("name", .string f.name), ("file", .string f.file),
    ("line", Json.int f.line), ("instruction", int f.instruction)]

/-- A line breakpoint. -/
def lineBreakpoint (b : Program.LineBreakpoint) : Json :=
  .object [("id", Json.nat b.id), ("line", Json.int b.line), ("verified", .bool b.verified)]

/-- The name of a kind of value. -/
def valueKind : Program.Value → String
  | .integer _ => "integer"
  | .float _ => "float"
  | .string _ => "string"
  | .boolean _ => "boolean"
  | .list _ => "list"

mutual

/-- A value. A floating-point number is reported as a text. -/
def value : Program.Value → Json
  | .integer n => Json.int n
  | .float x => .string x.plainText
  | .string s => .string s
  | .boolean b => .bool b
  | .list items => .array (namedValues items)

/-- Named values. -/
def namedValues : List (String × Program.Value) → List Json
  | [] => []
  | (name, v) :: rest =>
    .object [("name", .string name), ("kind", .string (valueKind v)), ("value", value v),
      ("has_memory", .bool (Program.Variable.hasMemory { name, value := v }))]
      :: namedValues rest

end

/-- A variable. -/
def variableOf (x : Program.Variable) : Json :=
  .object [("name", .string x.name), ("kind", .string (valueKind x.value)),
    ("value", value x.value), ("has_memory", .bool x.hasMemory)]

end DebugAdapter.Report
