import DebugAdapter.Framing.Headed
/-!
# Reports

What the adapter has read and done, as JSON values that can be looked at. A report of something that
may be missing is `null` if it is; a report of an error has its kind and its text.
-/

namespace DebugAdapter.Report

/-- A report of something that may be missing. -/
def orNull {α : Type} (f : α → Json) (x : Option α) : Json := Json.orNull (x.map f)

/-- A text that may be missing. -/
def text (s : Option String) : Json := orNull .string s

/-- An integer that may be missing. -/
def int (n : Option Int) : Json := orNull Json.int n

/-- A natural number that may be missing. -/
def nat (n : Option Nat) : Json := orNull Json.nat n

/-- A truth value that may be missing. -/
def bool (b : Option Bool) : Json := orNull .bool b

/-- A list. -/
def list {α : Type} (f : α → Json) (xs : List α) : Json := .array (xs.map f)

/-- An error. -/
def failure (kind message : String) : Json :=
  .object [("error", .string kind), ("message", .string message)]

/-- Octets in hexadecimal. -/
def hex (bs : Bytes) : String :=
  String.ofList (bs.flatMap fun b => [Json.hexDigit (b.toNat / 16), Json.hexDigit (b.toNat % 16)])

/-- Octets: as a text if they are one. -/
def octets (bs : Bytes) : Json :=
  match Utf8.decode? bs with
  | some s => .object [("text", .string s)]
  | none => .object [("hex", .string (hex bs))]

/-- The name of a class of errors. -/
def errorClass : ErrorClass → String
  | .malformed => "syntax"
  | .truncated => "eof"
  | .mismatched => "data"

/-- A value that could not be decoded. -/
def unreadable (e : DecodeError) : Json := .object [("error", .string (errorClass e.errorClass))]

end DebugAdapter.Report
