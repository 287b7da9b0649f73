import DebugAdapter.Number.Decimal
/-!
# JSON values

Numbers are integers of at most 64 bits or floating-point numbers. An object lists its members;
reading delivers them with ascending, distinct keys (`Json.Sorted`), while a message that the
adapter builds itself keeps the order in which it was built.
-/

namespace DebugAdapter

/-- A JSON number. -/
inductive Number where
  | int (value : Int)
  | float (value : Binary64)
deriving DecidableEq, Repr, Inhabited

/-- A JSON value. -/
inductive Json where
  | null
  | bool (value : Bool)
  | number (value : Number)
  | string (value : String)
  | array (items : List Json)
  | object (members : List (String × Json))
deriving Repr, Inhabited

namespace Json

/-- An integer as a value. -/
abbrev int (n : Int) : Json := .number (.int n)

/-- A natural number as a value. -/
abbrev nat (n : Nat) : Json := .number (.int n)

/-- The members of an object; nothing else has any. -/
def members : Json → List (String × Json)
  | .object ms => ms
  | _ => []

/-- The value of a member. -/
def member? (key : String) (v : Json) : Option Json := v.members.lookup key

/-- A member put where its key belongs in ascending order, in the place of an equal key. -/
def insertMember (key : String) (v : Json) : List (String × Json) → List (String × Json)
  | [] => [(key, v)]
  | (k, w) :: rest =>
    if key < k then (key, v) :: (k, w) :: rest
    else if key = k then (key, v) :: rest
    else (k, w) :: insertMember key v rest

/-- Members in ascending order of their keys, of equal keys the last one. -/
def sortMembers (ms : List (String × Json)) : List (String × Json) :=
  ms.foldl (fun sorted (k, v) => insertMember k v sorted) []

/-- A member that is there only if it has a value. -/
def optional (key : String) (v : Option Json) : List (String × Json) :=
  match v with
  | some v => [(key, v)]
  | none => []

/-- A value or `null`. -/
def orNull (v : Option Json) : Json := v.getD .null

/-- A list of texts. -/
def strings (ss : List String) : Json := .array (ss.map .string)

end Json

end DebugAdapter
