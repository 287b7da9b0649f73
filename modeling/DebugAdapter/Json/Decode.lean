import DebugAdapter.Json.Document
import DebugAdapter.Json.Render
import DebugAdapter.Text.Quoted
/-!
# Reading documents as values of a type

A decoder looks at a document from the left and reports the first thing that keeps it from being a
value of its type. A record is read from an object, whose unknown members are skipped, or from an
array that lists the fields in the order of their declaration.
-/

namespace DebugAdapter

/-- What stands where something else was expected. -/
inductive Found where
  | null
  | bool (value : Bool)
  | number (value : Number)
  | string (value : String)
  | sequence
  | map
deriving Repr, DecidableEq

/-- A document that is JSON but has the wrong shape. -/
inductive Mismatch where
  | invalidType (found : Found) (expected : String)
  | invalidValue (found : Found) (expected : String)
  | invalidLength (length : Nat) (expected : String)
  | missingField (name : String)
  | duplicateField (name : String)
  | unknownVariant (name : String) (variants : List String)
deriving Repr, DecidableEq

/-- Why a document is no value of a type. -/
inductive DecodeError where
  | fault (f : Fault)
  | mismatch (m : Mismatch)
deriving Repr, DecidableEq

/-- Where a document came from. Two shapes that are wrong in a value are malformed in a text,
because what should follow the value there is its end. -/
inductive Origin where
  | text
  | value
deriving Repr, DecidableEq

/-- A reader of documents as values of a type. -/
abbrev Decoder (α : Type) := Origin → Document → Except DecodeError α

namespace Found

/-- How the thing found is called. -/
def describe : Found → String
  | .null => "null"
  | .bool b => "boolean `" ++ (if b then "true" else "false") ++ "`"
  | .number (.int n) => "integer `" ++ String.ofList (Json.renderInt n) ++ "`"
  | .number (.float x) => "floating point `" ++ x.dataText ++ "`"
  | .string s => "string " ++ Text.quoted s
  | .sequence => "sequence"
  | .map => "map"

end Found

namespace Mismatch

/-- A name between backquotes. -/
def ticked (s : String) : String := "`" ++ s ++ "`"

/-- The names that would have been possible. -/
def oneOf : List String → String
  | [] => "there are no variants"
  | [a] => "expected " ++ ticked a
  | [a, b] => "expected " ++ ticked a ++ " or " ++ ticked b
  | names => "expected one of " ++ String.intercalate ", " (names.map ticked)

/-- How a mismatch is reported. -/
def message : Mismatch → String
  | .invalidType found expected => "invalid type: " ++ found.describe ++ ", expected " ++ expected
  | .invalidValue found expected => "invalid value: " ++ found.describe ++ ", expected " ++ expected
  | .invalidLength n expected =>
    "invalid length " ++ toString n ++ ", expected " ++ expected
  | .missingField name => "missing field " ++ ticked name
  | .duplicateField name => "duplicate field " ++ ticked name
  | .unknownVariant name variants =>
    "unknown variant " ++ ticked name ++ ", " ++ oneOf variants

end Mismatch

/-- The three classes of errors. -/
inductive ErrorClass where
  | malformed
  | truncated
  | mismatched
deriving Repr, DecidableEq

/-- The class of a fault in a text. -/
def Fault.errorClass : Fault → ErrorClass
  | .malformed => .malformed
  | .truncated => .truncated

/-- The class of an error. -/
def DecodeError.errorClass : DecodeError → ErrorClass
  | .fault f => f.errorClass
  | .mismatch _ => .mismatched

/-- How an error is reported. Only texts have faults; a value has none. -/
def DecodeError.message : DecodeError → String
  | .fault .malformed => "malformed JSON"
  | .fault .truncated => "truncated JSON"
  | .mismatch m => m.message

namespace Document

/-! ## Skipping -/

mutual

/-- The fault that a reader meets who skips the document. -/
def skipFault : Document → Option Fault
  | .array _ items ending => (skipFaultOfItems items).or (ending.map (·.skip))
  | .object _ members ending => (skipFaultOfMembers members).or (ending.map (·.skip))
  | .broken b => some b.skip
  | _ => none

def skipFaultOfItems : List Document → Option Fault
  | [] => none
  | d :: rest => (skipFault d).or (skipFaultOfItems rest)

def skipFaultOfMembers : List (Key × Document) → Option Fault
  | [] => none
  | (.absent b, _) :: _ => some b.skip
  | (_, d) :: rest => (skipFault d).or (skipFaultOfMembers rest)

end

/-! ## Reading any value -/

/-- The fault of a container that ends too early or is nested too deep. -/
def containerFault (shallow : Bool) (ending : Option Breakage) : Except Fault Unit :=
  match shallow, ending with
  | false, _ => .error .malformed
  | true, some b => .error b.read
  | true, none => .ok ()

mutual

/-- The document as a JSON value: members in ascending order, of equal keys the last. -/
def toJson : Document → Except Fault Json
  | .null => .ok .null
  | .bool b => .ok (.bool b)
  | .number n => .ok (.number n)
  | .string s => .ok (.string s)
  | .outOfRange => .error .malformed
  | .unreadable => .error .malformed
  | .broken b => .error b.read
  | .array shallow items ending => do
    if shallow then
      let vs ← toItems items
      containerFault shallow ending
      return .array vs
    else .error .malformed
  | .object shallow members ending => do
    if shallow then
      let ms ← toMembers members
      containerFault shallow ending
      return .object (Json.sortMembers ms)
    else .error .malformed

def toItems : List Document → Except Fault (List Json)
  | [] => .ok []
  | d :: rest => do
    let v ← toJson d
    let vs ← toItems rest
    return v :: vs

def toMembers : List (Key × Document) → Except Fault (List (String × Json))
  | [] => .ok []
  | (key, d) :: rest => do
    let k ← key.read
    let v ← toJson d
    let ms ← toMembers rest
    return (k, v) :: ms

end

/-- What stands at the start of a document, for a reader that expected something else. A container
counts by its bracket; everything else has to be read. -/
def found : Document → Except Fault Found
  | .null => .ok .null
  | .bool b => .ok (.bool b)
  | .number n => .ok (.number n)
  | .string s => .ok (.string s)
  | .outOfRange => .error .malformed
  | .unreadable => .error .malformed
  | .array .. => .ok .sequence
  | .object .. => .ok .map
  | .broken b => .error b.read

end Document

namespace Decode

/-- A fault of the text. -/
def fault {α : Type} (f : Fault) : Except DecodeError α := .error (.fault f)

/-- A wrong shape. -/
def mismatch {α : Type} (m : Mismatch) : Except DecodeError α := .error (.mismatch m)

/-- Something else was expected here. -/
def unexpected {α : Type} (expected : String) (d : Document) : Except DecodeError α :=
  match d.found with
  | .ok found => mismatch (.invalidType found expected)
  | .error f => fault f

/-- Any JSON value. -/
def json : Decoder Json := fun _ d =>
  match d.toJson with
  | .ok v => .ok v
  | .error f => fault f

/-- A text. -/
def string : Decoder String := fun _ d =>
  match d with
  | .string s => .ok s
  | d => unexpected "a string" d

/-- A truth value. -/
def bool : Decoder Bool := fun _ d =>
  match d with
  | .bool b => .ok b
  | d => unexpected "a boolean" d

/-- An integer of some range. -/
def integer (range : Text.IntegerRange) (name : String) : Decoder Int := fun _ d =>
  match d with
  | .number (.int n) =>
    if range.holds n then .ok n else mismatch (.invalidValue (.number (.int n)) name)
  | d => unexpected name d

/-- An integer of 64 bits with a sign. -/
def int64 : Decoder Int := integer .signed64 "i64"

/-- A size. -/
def size : Decoder Nat := fun o d => (integer .unsigned64 "usize" o d).map Int.toNat

/-- `null`. -/
def unit : Decoder Unit := fun _ d =>
  match d with
  | .null => .ok ()
  | d => unexpected "unit" d

/-- `null` or a value. -/
def optional {α : Type} (inner : Decoder α) : Decoder (Option α) := fun o d =>
  match d with
  | .null => .ok none
  | d => (inner o d).map some

/-- The items of a list, each read by `inner`. -/
def each {α : Type} (inner : Document → Except DecodeError α) :
    List Document → Except DecodeError (List α)
  | [] => .ok []
  | d :: rest => do
    let v ← inner d
    let vs ← each inner rest
    return v :: vs

/-- A list. -/
def list {α : Type} (inner : Decoder α) : Decoder (List α) := fun o d =>
  match d with
  | .array shallow items ending => do
    if !shallow then fault .malformed
    let vs ← each (inner o) items
    match ending with
    | none => return vs
    | some b => fault b.read
  | d => unexpected "a sequence" d

/-- The place of a name among the variants' names, or the fallback's. -/
def variant {α : Type} (variants : List (String × α)) (fallback : Option α) (name : String) :
    Except DecodeError α :=
  match variants.lookup name, fallback with
  | some v, _ => .ok v
  | none, some v => .ok v
  | none, none => mismatch (.unknownVariant name (variants.map (·.1)))

/-- One of several names: as a text, or as the only key of an object whose value is `null`. -/
def oneOf {α : Type} (variants : List (String × α)) (fallback : Option α) : Decoder α := fun o d =>
  match d, o with
  | .string s, _ => variant variants fallback s
  | .object shallow members ending, .text => do
    if !shallow then fault .malformed
    match members with
    | [] => fault ((ending.map (·.read)).getD .malformed)
    | (.unreadable, _) :: _ => fault .malformed
    | (.absent _, instead) :: _ => unexpected "variant identifier" instead
    | (.text key, value) :: rest =>
      let v ← variant variants fallback key
      unit .text value
      match rest, ending with
      | _ :: _, _ => fault .malformed
      | [], some b => fault b.read
      | [], none => return v
  | .object _ [(.text key, value)] _, .value => do
    let v ← variant variants fallback key
    unit .value value
    return v
  | .object .., .value => mismatch (.invalidValue .map "map with a single key")
  | d, .value => unexpected "string or map" d
  | .broken b, .text => fault b.choose
  | _, .text => fault .malformed

/-! ## Records -/

/-- What is to be done when a field is not there. -/
inductive Presence where
  /-- The field has to be there. -/
  | required
  /-- Without the field its value is absent; an array has to list it all the same. -/
  | optional
  /-- Without the field its value is a default, also at the end of an array. -/
  | defaulted
deriving DecidableEq, Repr

/-- A field as a document is checked against it. -/
structure FieldRule where
  name : String
  presence : Presence
  check : Origin → Document → Except DecodeError Unit

/-- Where a record's fields are found. -/
structure Slots where
  find : String → Option Document
  /-- The error that a missing field is, by its name and the number of fields declared before it. -/
  missing : FieldRule → Nat → Option DecodeError

/-- A reader of some fields of a record: the rules in the order of declaration, and the value from
the slots. -/
structure Fields (α : Type) where
  rules : List FieldRule
  build : Origin → Slots → Except DecodeError α

namespace Fields

/-- No field. -/
def pure {α : Type} (v : α) : Fields α := ⟨[], fun _ _ => .ok v⟩

/-- One field after the fields of a function. -/
def field {α β : Type} (before : Fields (α → β)) (name : String) (presence : Presence)
    (absent : Option α) (inner : Decoder α) : Fields β :=
  let rule : FieldRule := ⟨name, presence, fun o d => (inner o d).map fun _ => ()⟩
  { rules := before.rules ++ [rule]
    build := fun o slots => do
      let f ← before.build o slots
      let v ←
        match slots.find name with
        | some d => inner o d
        | none =>
          match slots.missing rule before.rules.length, absent with
          | some e, _ => .error e
          | none, some v => .ok v
          | none, none => mismatch (.missingField name)
      return f v }

/-- A field that has to be there. -/
def required {α β : Type} (before : Fields (α → β)) (name : String) (inner : Decoder α) :
    Fields β := before.field name .required none inner

/-- A field that may be absent or `null`. -/
def optional {α β : Type} (before : Fields (Option α → β)) (name : String) (inner : Decoder α) :
    Fields β := before.field name .optional (some none) (Decode.optional inner)

/-- A field with a default. -/
def defaulted {α β : Type} (before : Fields (α → β)) (name : String) (default : α)
    (inner : Decoder α) : Fields β := before.field name .defaulted (some default) inner

end Fields

/-- The members of an object from the left: each known one is read, once, and each other skipped. -/
def checkMembers (o : Origin) (rules : List FieldRule) :
    List String → List (Key × Document) → Except DecodeError Unit
  | _, [] => .ok ()
  | seen, (key, d) :: rest => do
    let key ←
      match key.read with
      | .ok k => Except.ok k
      | .error f => fault f
    match rules.find? (·.name = key) with
    | some rule =>
      if seen.contains key then mismatch (.duplicateField key)
      rule.check o d
      checkMembers o rules (key :: seen) rest
    | none =>
      match d.skipFault with
      | some f => fault f
      | none => checkMembers o rules seen rest

/-- The items of an array against the fields, both from the left. -/
def checkItems (o : Origin) : List FieldRule → List Document → Except DecodeError Unit
  | rule :: rules, d :: rest => do
    rule.check o d
    checkItems o rules rest
  | _, _ => .ok ()

/-- The value of a key among members. -/
def memberOf (members : List (Key × Document)) (name : String) : Option Document :=
  (members.find? (·.1 = .text name)).map (·.2)

/-- The field's item, when the items are listed in the order of the fields. -/
def itemOf (rules : List FieldRule) (items : List Document) (name : String) : Option Document :=
  (((rules.map (·.name)).zip items).find? (·.1 = name)).map (·.2)

/-- How the length of a record is described. -/
def lengthOf (name : String) (n : Nat) : String :=
  "struct " ++ name ++ " with " ++ toString n ++ (if n = 1 then " element" else " elements")

/-- A record from its fields. -/
def record {α : Type} (name : String) (fields : Fields α) : Decoder α := fun o d =>
  match d with
  | .object shallow members ending => do
    if !shallow then fault .malformed
    checkMembers o fields.rules [] members
    match ending with
    | some b => fault b.read
    | none =>
      fields.build o
        { find := memberOf members
          missing := fun rule _ =>
            if rule.presence = .required then some (.mismatch (.missingField rule.name)) else none }
  | .array shallow items ending => do
    if !shallow then fault .malformed
    checkItems o fields.rules items
    let n := fields.rules.length
    if n < items.length then
      match o with
      | .text => fault .malformed
      | .value => mismatch (.invalidLength items.length "fewer elements in array")
    match ending with
    | some b => fault b.read
    | none =>
      fields.build o
        { find := itemOf fields.rules items
          missing := fun rule i =>
            if rule.presence = .defaulted then none
            else some (.mismatch (.invalidLength i (lengthOf name n))) }
  | d => unexpected ("struct " ++ name) d

/-- A value read out of another one. -/
def fromJson {α : Type} (decoder : Decoder α) (v : Json) : Except DecodeError α :=
  decoder .value (.ofJson v)

/-- A value read out of a text that holds nothing else. -/
def fromBytes {α : Type} (decoder : Decoder α) (bs : Bytes) : Except DecodeError α := do
  let whole := Document.ofBytes bs
  let v ← decoder .text whole.value
  if whole.trailing then fault .malformed
  return v

end Decode

/-- The JSON value that a text is. -/
def Json.ofBytes? (bs : Bytes) : Except DecodeError Json := Decode.fromBytes Decode.json bs

end DebugAdapter
