import DebugAdapter.Interpreter.Data
/-!
# Compiled code

What the interpreter's compiler and its registers report: instructions, the source positions they
come from, the two pointers, and the stack.
-/

namespace DebugAdapter.Interpreter

/-- A stretch of source text. -/
structure Position where
  startLine : Int := 0
  startChar : Int := 0
  endLine : Int := 0
  endChar : Int := 0
  startTotal : Int := 0
  endTotal : Int := 0
deriving DecidableEq, Repr, Inhabited

namespace Position

def decoder : Decoder Position :=
  Decode.record "Position" <|
    ((Decode.Fields.pure Position.mk).required "StartLine" Decode.int64
      |>.required "StartChar" Decode.int64
      |>.required "EndLine" Decode.int64
      |>.required "EndChar" Decode.int64
      |>.required "StartTotal" Decode.int64
      |>.required "EndTotal" Decode.int64)

def encode (p : Position) : Json :=
  .object [("EndChar", .int p.endChar), ("EndLine", .int p.endLine),
    ("EndTotal", .int p.endTotal), ("StartChar", .int p.startChar),
    ("StartLine", .int p.startLine), ("StartTotal", .int p.startTotal)]

end Position

/-- The source of the instructions from `startOffset` to `endOffset`, both included. -/
structure DebugInfo where
  startOffset : Int
  endOffset : Int
  position : Position
deriving DecidableEq, Repr, Inhabited

namespace DebugInfo

/-- Whether an instruction belongs to the entry. -/
def holds (info : DebugInfo) (offset : Int) : Bool :=
  info.startOffset ≤ offset && offset ≤ info.endOffset

def decoder : Decoder DebugInfo :=
  Decode.record "DebugInfo" <|
    ((Decode.Fields.pure DebugInfo.mk).required "StartOffset" Decode.int64
      |>.required "EndOffset" Decode.int64
      |>.required "Position" Position.decoder)

def encode (info : DebugInfo) : Json :=
  .object [("EndOffset", .int info.endOffset), ("Position", info.position.encode),
    ("StartOffset", .int info.startOffset)]

end DebugInfo

/-- The entry of an instruction: entries may overlap, and the last one in the table counts. -/
def debugInfoAt? (table : List DebugInfo) (offset : Int) : Option DebugInfo :=
  table.reverse.find? (·.holds offset)

/-- An instruction. -/
structure Instruction where
  opcode : String
  parameter : Option DataItem
  tag : Option String
deriving DecidableEq, Repr, Inhabited

namespace Instruction

def decoder : Decoder Instruction :=
  Decode.record "Instruction" <|
    ((Decode.Fields.pure Instruction.mk).required "Opcode" Decode.string
      |>.defaulted "Parameter" none (Decode.optional DataItem.decoder)
      |>.defaulted "Tag" none (Decode.optional Decode.string))

def encode (i : Instruction) : Json :=
  .object [("Opcode", .string i.opcode),
    ("Parameter", Json.orNull (i.parameter.map DataItem.encode)),
    ("Tag", Json.orNull (i.tag.map .string))]

end Instruction

/-- The interpreter's pointers into its stack and its code. -/
structure Registers where
  basePointer : Int
  codePointer : Int
deriving DecidableEq, Repr, Inhabited

namespace Registers

def decoder : Decoder Registers :=
  Decode.record "Registers" <|
    ((Decode.Fields.pure Registers.mk).required "BasePointer" Decode.int64
      |>.required "CodePointer" Decode.int64)

def encode (r : Registers) : Json :=
  .object [("BasePointer", .int r.basePointer), ("CodePointer", .int r.codePointer)]

end Registers

/-- The interpreter's stack. -/
structure StackDump where
  memorySize : Int
  stack : List DataItem
deriving DecidableEq, Repr, Inhabited

namespace StackDump

def decoder : Decoder StackDump :=
  Decode.record "StackDump" <|
    ((Decode.Fields.pure StackDump.mk).defaulted "StackMemorySize" 0 Decode.int64
      |>.required "Stack" (Decode.list DataItem.decoder))

def encode (s : StackDump) : Json :=
  .object [("Stack", .array (s.stack.map DataItem.encode)), ("StackMemorySize", .int s.memorySize)]

end StackDump

end DebugAdapter.Interpreter
