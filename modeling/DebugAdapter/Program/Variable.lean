import DebugAdapter.Interpreter.Data
import DebugAdapter.Text.Integer
/-!
# Variables

A stack item as the user sees it: its text read as the declared type. A text that cannot be read so
stays a text. Lists are JSON arrays whose items are named by their places.
-/

namespace DebugAdapter.Program

open Interpreter (DataItem DataType)

/-- The value of a variable. -/
inductive Value where
  | integer (n : Int)
  | float (x : Binary64)
  | string (s : String)
  | boolean (b : Bool)
  /-- Named items. -/
  | list (items : List (String × Value))
deriving Repr, Inhabited

namespace Value

/-- The name of the item at a place. -/
def itemName (place : Nat) : String := "[" ++ toString place ++ "]"

/-- A number as a value: an integer of 64 bits with a sign, or else a floating-point number. -/
def ofNumber : Number → Value
  | .int n => if Text.IntegerRange.signed64.holds n then integer n else float (.ofNat n.toNat)
  | .float x => float x

mutual

/-- A JSON value as a value; what has no counterpart is shown as JSON text. -/
def ofJson : Json → Value
  | .bool b => boolean b
  | .number n => ofNumber n
  | .string s => string s
  | .array items => list (ofItems 0 items)
  | .null => string Json.null.text
  | .object members => string (Json.object members).text

/-- The items of an array from some place on. -/
def ofItems : Nat → List Json → List (String × Value)
  | _, [] => []
  | place, v :: rest => (itemName place, ofJson v) :: ofItems (place + 1) rest

end

/-- A truth value, in any case. -/
def booleanOfText? (s : String) : Option Bool :=
  match (Text.trim s).map Char.toLower with
  | "true" => some true
  | "false" => some false
  | _ => none

/-- A list as a JSON array. -/
def listOfText? (s : String) : Option Value :=
  match Json.ofBytes? (Utf8.encode s) with
  | .ok (.array items) => some (list (ofItems 0 items))
  | _ => none

/-- A text as a value of some type, if it is one. -/
def ofText? (type : DataType) (s : String) : Option Value :=
  match type with
  | .int | .byte => (Text.readInt64 (Text.trim s)).toOption.map integer
  | .float => (Binary64.ofText? (Text.trim s)).map float
  | .boolean => (booleanOfText? s).map boolean
  | .list => listOfText? s
  | .char | .string | .struct | .runtime | .other _ => none

/-- A text as a value of some type, or else as a text. -/
def ofText (type : DataType) (s : String) : Value := (ofText? type s).getD (string s)

end Value

/-- A variable. The octets of a text are laid out when somebody first looks at them. -/
structure Variable where
  name : String
  value : Value
  octets : Option Bytes := none
deriving Repr, Inhabited

namespace Variable

/-- A stack item under some name. -/
def ofItem (name : String) (item : DataItem) : Variable :=
  { name, value := Value.ofText item.type item.value }

/-- The same variable with another value. -/
def setValue (x : Variable) (v : Value) : Variable := { x with value := v, octets := none }

/-- The variable with its octets laid out, if it has any. -/
def layOut (x : Variable) : Variable :=
  match x.octets, x.value with
  | none, .string s => { x with octets := some (Utf8.encode s) }
  | _, _ => x

/-- The octets of a variable, and the variable afterwards. -/
def memory (x : Variable) : Option Bytes × Variable := (x.layOut.octets, x.layOut)

/-- Whether a variable can be viewed as octets. -/
def hasMemory (x : Variable) : Bool :=
  x.octets.isSome ||
    match x.value with
    | .string _ => true
    | _ => false

/-- The items of a list as variables; nothing else has any. -/
def children (x : Variable) : List Variable :=
  match x.value with
  | .list items => items.map fun (name, v) => { name, value := v }
  | _ => []

end Variable

end DebugAdapter.Program
