import DebugAdapter.Json.Decode
import DebugAdapter.Text.Blank
/-!
# Stack items

What lies on the interpreter's stack: a value as text, the type it is declared with, and a tag that
says whether it is a variable or a parameter.
-/

namespace DebugAdapter.Interpreter

/-- The declared type of a value. -/
inductive DataType where
  | int
  | float
  | byte
  | char
  | string
  | boolean
  | struct
  | list
  | runtime
  | other (name : String)
deriving DecidableEq, Repr, Inhabited

namespace DataType

/-- The name of a type. -/
def name : DataType → String
  | int => "INT"
  | float => "FLOAT"
  | byte => "BYTE"
  | char => "CHAR"
  | string => "STRING"
  | boolean => "BOOLEAN"
  | struct => "STRUCT"
  | list => "LIST"
  | runtime => "RUNTIME"
  | other name => name

/-- The types that have a name of their own. -/
def named : List DataType := [int, float, byte, char, string, boolean, struct, list, runtime]

/-- The type of a name. -/
def ofName (s : String) : DataType := (named.find? (·.name = s)).getD (other s)

/-- Whether a type is known by its name alone. -/
def isOther : DataType → Bool
  | other _ => true
  | _ => false

/-- A type from its name. -/
def decoder : Decoder DataType := fun o d => (Decode.string o d).map ofName

/-- A type on the wire. -/
def encode (t : DataType) : Json := .string t.name

end DataType

/-- Where a stack item comes from. -/
inductive Tag where
  | var (name : String)
  | param (name : String)
  | other (text : String)
deriving DecidableEq, Repr, Inhabited

namespace Tag

/-- How the tag of a variable starts. -/
def variableMark : String := "var."

/-- How the tag of a parameter starts. -/
def parameterMark : String := "param."

/-- The text of a tag. -/
def text : Tag → String
  | var name => variableMark ++ name
  | param name => parameterMark ++ name
  | other s => s

/-- The tag of a text. -/
def ofText (s : String) : Tag :=
  match Text.afterStart? variableMark s with
  | some name => var name
  | none =>
    match Text.afterStart? parameterMark s with
    | some name => param name
    | none => other s

/-- A tag from its text. -/
def decoder : Decoder Tag := fun o d => (Decode.string o d).map ofText

/-- A tag on the wire. -/
def encode (t : Tag) : Json := .string t.text

end Tag

/-- A value on the stack. -/
structure DataItem where
  value : String
  type : DataType
  tag : Option Tag
deriving DecidableEq, Repr, Inhabited

namespace DataItem

/-- A value's text: a string is its own text, anything else its compact JSON text. -/
def valueText : Json → String
  | .string s => s
  | v => v.text

/-- A value of any kind, as text. -/
def valueDecoder : Decoder String := fun o d => (Decode.json o d).map valueText

/-- An item on the wire. -/
def decoder : Decoder DataItem :=
  Decode.record "DataItem" <|
    ((Decode.Fields.pure DataItem.mk).required "Value" valueDecoder
      |>.required "Type" DataType.decoder
      |>.defaulted "Tag" none (Decode.optional Tag.decoder))

/-- An item for the wire. -/
def encode (item : DataItem) : Json :=
  .object [("Tag", Json.orNull (item.tag.map Tag.encode)), ("Type", item.type.encode),
    ("Value", .string item.value)]

end DataItem

end DebugAdapter.Interpreter
