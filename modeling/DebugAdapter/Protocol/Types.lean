import DebugAdapter.Json.Decode
/-!
# Shared types of the editor's protocol

What requests, responses and events of the Debug Adapter Protocol have in common. A field without a
value is left out of the JSON text.
-/

namespace DebugAdapter.Protocol

/-- A text field that may be absent. -/
def optionalText (key : String) (v : Option String) : List (String × Json) :=
  Json.optional key (v.map .string)

/-- An integer field that may be absent. -/
def optionalInt (key : String) (v : Option Int) : List (String × Json) :=
  Json.optional key (v.map .int)

/-- A truth value that may be absent. -/
def optionalBool (key : String) (v : Option Bool) : List (String × Json) :=
  Json.optional key (v.map .bool)

/-- A source file. -/
structure Source where
  name : Option String := none
  path : Option String := none
  sourceReference : Option Int := none
  presentationHint : Option String := none
  origin : Option String := none
deriving DecidableEq, Repr, Inhabited

namespace Source

def decoder : Decoder Source :=
  Decode.record "Source" <|
    ((Decode.Fields.pure Source.mk).optional "name" Decode.string
      |>.optional "path" Decode.string
      |>.optional "sourceReference" Decode.int64
      |>.optional "presentationHint" Decode.string
      |>.optional "origin" Decode.string)

def encode (s : Source) : Json :=
  .object (optionalText "name" s.name ++ optionalText "path" s.path
    ++ optionalInt "sourceReference" s.sourceReference
    ++ optionalText "presentationHint" s.presentationHint ++ optionalText "origin" s.origin)

end Source

/-- A breakpoint in a source file, as the editor asks for it. -/
structure SourceBreakpoint where
  line : Int
  column : Option Int := none
  condition : Option String := none
  hitCondition : Option String := none
  logMessage : Option String := none
deriving DecidableEq, Repr, Inhabited

namespace SourceBreakpoint

def decoder : Decoder SourceBreakpoint :=
  Decode.record "SourceBreakpoint" <|
    ((Decode.Fields.pure SourceBreakpoint.mk).required "line" Decode.int64
      |>.optional "column" Decode.int64
      |>.optional "condition" Decode.string
      |>.optional "hitCondition" Decode.string
      |>.optional "logMessage" Decode.string)

def encode (b : SourceBreakpoint) : Json :=
  .object ([("line", .int b.line)] ++ optionalInt "column" b.column
    ++ optionalText "condition" b.condition ++ optionalText "hitCondition" b.hitCondition
    ++ optionalText "logMessage" b.logMessage)

end SourceBreakpoint

/-- A breakpoint on a function. -/
structure FunctionBreakpoint where
  name : String
  condition : Option String := none
deriving DecidableEq, Repr, Inhabited

namespace FunctionBreakpoint

def decoder : Decoder FunctionBreakpoint :=
  Decode.record "FunctionBreakpoint" <|
    ((Decode.Fields.pure FunctionBreakpoint.mk).required "name" Decode.string
      |>.optional "condition" Decode.string)

def encode (b : FunctionBreakpoint) : Json :=
  .object ([("name", .string b.name)] ++ optionalText "condition" b.condition)

end FunctionBreakpoint

/-- Which accesses a data breakpoint is about. -/
inductive AccessType where
  | read
  | write
  | readWrite
deriving DecidableEq, Repr, Inhabited

namespace AccessType

def name : AccessType → String
  | read => "read"
  | write => "write"
  | readWrite => "readWrite"

def decoder : Decoder AccessType :=
  Decode.oneOf ([read, write, readWrite].map fun a => (a.name, a)) none

def encode (a : AccessType) : Json := .string a.name

end AccessType

/-- A breakpoint on data. -/
structure DataBreakpoint where
  dataId : String
  accessType : Option AccessType := none
deriving DecidableEq, Repr, Inhabited

namespace DataBreakpoint

def decoder : Decoder DataBreakpoint :=
  Decode.record "DataBreakpoint" <|
    ((Decode.Fields.pure DataBreakpoint.mk).required "dataId" Decode.string
      |>.optional "accessType" AccessType.decoder)

def encode (b : DataBreakpoint) : Json :=
  .object ([("dataId", .string b.dataId)]
    ++ Json.optional "accessType" (b.accessType.map AccessType.encode))

end DataBreakpoint

/-- A breakpoint on an instruction: an address as text, and an offset from it. -/
structure InstructionBreakpoint where
  instructionReference : String
  offset : Option Int := none
deriving DecidableEq, Repr, Inhabited

namespace InstructionBreakpoint

def decoder : Decoder InstructionBreakpoint :=
  Decode.record "InstructionBreakpoint" <|
    ((Decode.Fields.pure InstructionBreakpoint.mk).required "instructionReference" Decode.string
      |>.optional "offset" Decode.int64)

def encode (b : InstructionBreakpoint) : Json :=
  .object ([("instructionReference", .string b.instructionReference)]
    ++ optionalInt "offset" b.offset)

end InstructionBreakpoint

/-- A filter for exceptions with a condition. -/
structure ExceptionFilterOptions where
  filterId : String
  condition : Option String := none
deriving DecidableEq, Repr, Inhabited

namespace ExceptionFilterOptions

def decoder : Decoder ExceptionFilterOptions :=
  Decode.record "ExceptionFilterOptions" <|
    ((Decode.Fields.pure ExceptionFilterOptions.mk).required "filterId" Decode.string
      |>.optional "condition" Decode.string)

def encode (f : ExceptionFilterOptions) : Json :=
  .object ([("filterId", .string f.filterId)] ++ optionalText "condition" f.condition)

end ExceptionFilterOptions

/-- How far a step goes, as the editor asks for it. -/
inductive Granularity where
  | statement
  | line
  | instruction
deriving DecidableEq, Repr, Inhabited

namespace Granularity

def name : Granularity → String
  | statement => "statement"
  | line => "line"
  | instruction => "instruction"

def decoder : Decoder Granularity :=
  Decode.oneOf ([statement, line, instruction].map fun g => (g.name, g)) none

end Granularity

/-- A breakpoint, as the adapter reports it. -/
structure Breakpoint where
  id : Option Int := none
  verified : Bool := false
  line : Option Int := none
deriving DecidableEq, Repr, Inhabited

def Breakpoint.encode (b : Breakpoint) : Json :=
  .object (optionalInt "id" b.id ++ [("verified", .bool b.verified)] ++ optionalInt "line" b.line)

/-- A place where a breakpoint may be put. -/
structure BreakpointLocation where
  line : Int
  column : Option Int := none
deriving DecidableEq, Repr, Inhabited

def BreakpointLocation.encode (b : BreakpointLocation) : Json :=
  .object ([("line", .int b.line)] ++ optionalInt "column" b.column)

/-- A thread of the program. -/
structure Thread where
  id : Int
  name : String
deriving DecidableEq, Repr, Inhabited

def Thread.encode (t : Thread) : Json := .object [("id", .int t.id), ("name", .string t.name)]

/-- A frame of the stack, as the editor shows it. -/
structure StackFrame where
  id : Int
  name : String
  source : Option Source
  line : Int
  column : Int
  instructionPointerReference : Option String
deriving DecidableEq, Repr, Inhabited

def StackFrame.encode (f : StackFrame) : Json :=
  .object ([("id", .int f.id), ("name", .string f.name)]
    ++ Json.optional "source" (f.source.map Source.encode)
    ++ [("line", .int f.line), ("column", .int f.column)]
    ++ optionalText "instructionPointerReference" f.instructionPointerReference)

/-- A group of variables. -/
structure Scope where
  name : String
  variablesReference : Int
  expensive : Bool
  presentationHint : Option String
deriving DecidableEq, Repr, Inhabited

def Scope.encode (s : Scope) : Json :=
  .object ([("name", .string s.name), ("variablesReference", .int s.variablesReference),
      ("expensive", .bool s.expensive)]
    ++ optionalText "presentationHint" s.presentationHint)

/-- A hint on how to show a value. -/
structure PresentationHint where
  kind : Option String := none
  attributes : Option (List String) := none
  lazy : Option Bool := none
deriving DecidableEq, Repr, Inhabited

def PresentationHint.encode (h : PresentationHint) : Json :=
  .object (optionalText "kind" h.kind ++ Json.optional "attributes" (h.attributes.map Json.strings)
    ++ optionalBool "lazy" h.lazy)

/-- A variable, as the editor shows it. -/
structure Variable where
  name : String
  value : String
  type : Option String := none
  variablesReference : Int
  evaluateName : Option String := none
  memoryReference : Option String := none
deriving DecidableEq, Repr, Inhabited

def Variable.encode (v : Variable) : Json :=
  .object ([("name", .string v.name), ("value", .string v.value)] ++ optionalText "type" v.type
    ++ [("variablesReference", .int v.variablesReference)]
    ++ optionalText "evaluateName" v.evaluateName
    ++ optionalText "memoryReference" v.memoryReference)

/-- A filter for exceptions that the adapter offers. -/
structure ExceptionFilter where
  filter : String
  label : String
  description : Option String := none
  default : Option Bool := none
  supportsCondition : Option Bool := none
  conditionDescription : Option String := none
deriving DecidableEq, Repr, Inhabited

def ExceptionFilter.encode (f : ExceptionFilter) : Json :=
  .object ([("filter", .string f.filter), ("label", .string f.label)]
    ++ optionalText "description" f.description ++ optionalBool "default" f.default
    ++ optionalBool "supportsCondition" f.supportsCondition
    ++ optionalText "conditionDescription" f.conditionDescription)

/-- More about an exception. -/
structure ExceptionDetails where
  message : Option String := none
  typeName : Option String := none
  stackTrace : Option String := none
deriving DecidableEq, Repr, Inhabited

def ExceptionDetails.encode (d : ExceptionDetails) : Json :=
  .object (optionalText "message" d.message ++ optionalText "typeName" d.typeName
    ++ optionalText "stackTrace" d.stackTrace)

/-- A completion that the adapter offers. -/
structure CompletionItem where
  label : String
  text : Option String := none
  sortText : Option String := none
  detail : Option String := none
  selectionStart : Option Int := none
  selectionLength : Option Int := none
deriving DecidableEq, Repr, Inhabited

def CompletionItem.encode (c : CompletionItem) : Json :=
  .object ([("label", .string c.label)] ++ optionalText "text" c.text
    ++ optionalText "sortText" c.sortText ++ optionalText "detail" c.detail
    ++ optionalInt "selectionStart" c.selectionStart
    ++ optionalInt "selectionLength" c.selectionLength)

/-- An error with placeholders in its text. -/
structure ErrorMessage where
  id : Int
  format : String
  /-- What the placeholders stand for; no name occurs twice. -/
  values : List (String × String) := []
  showUser : Option Bool := none
deriving DecidableEq, Repr, Inhabited

namespace ErrorMessage

/-- The same error with or without a notice to the user. -/
def withShowUser (m : ErrorMessage) (shown : Bool) : ErrorMessage :=
  { m with showUser := some shown }

/-- A pair put behind the others, or in the place of one of the same name. -/
def put (name value : String) : List (String × String) → List (String × String)
  | [] => [(name, value)]
  | (n, v) :: rest => if n = name then (n, value) :: rest else (n, v) :: put name value rest

/-- The same error with one more placeholder filled. -/
def withVariable (m : ErrorMessage) (name value : String) : ErrorMessage :=
  { m with values := put name value m.values }

def encode (m : ErrorMessage) : Json :=
  .object ([("id", .int m.id), ("format", .string m.format)]
    ++ Json.optional "variables"
      (if m.values.isEmpty then none
       else some (.object (m.values.map fun (n, v) => (n, Json.string v))))
    ++ optionalBool "showUser" m.showUser)

end ErrorMessage

end DebugAdapter.Protocol
