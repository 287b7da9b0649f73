/-!
# Integers in texts

Reading a text as an integer of a bounded range, in any radix up to 36. The digits are taken from
the left: whichever comes first decides, the character that is no digit or the digit that leaves
the range.
-/

namespace DebugAdapter.Text

/-- Why a text is no integer of its range. -/
inductive IntegerFlaw where
  | empty
  | invalidDigit
  | tooLarge
  | tooSmall
deriving DecidableEq, Repr

/-- How a flaw is reported. -/
def IntegerFlaw.message : IntegerFlaw → String
  | .empty => "cannot parse integer from empty string"
  | .invalidDigit => "invalid digit found in string"
  | .tooLarge => "number too large to fit in target type"
  | .tooSmall => "number too small to fit in target type"

/-- The integers from `low` to `high`. -/
structure IntegerRange where
  low : Int
  high : Int
deriving DecidableEq, Repr

/-- The integers that fit into 64 bits with a sign. -/
def IntegerRange.signed64 : IntegerRange := ⟨-9223372036854775808, 9223372036854775807⟩

/-- The integers that fit into 64 bits without a sign. -/
def IntegerRange.unsigned64 : IntegerRange := ⟨0, 18446744073709551615⟩

/-- Whether `n` lies in the range. -/
def IntegerRange.holds (range : IntegerRange) (n : Int) : Bool := range.low ≤ n && n ≤ range.high

/-- The value of a digit in some radix. -/
def digitValue? (radix : Nat) (c : Char) : Option Nat :=
  let value? :=
    if '0' ≤ c ∧ c ≤ '9' then some (c.toNat - '0'.toNat)
    else if 'a' ≤ c ∧ c ≤ 'z' then some (c.toNat - 'a'.toNat + 10)
    else if 'A' ≤ c ∧ c ≤ 'Z' then some (c.toNat - 'A'.toNat + 10)
    else none
  value?.filter (· < radix)

/-- The number behind `value` once the remaining digits are appended to it, away from zero. -/
def appendDigits (range : IntegerRange) (radix : Nat) (negative : Bool) :
    Int → List Char → Except IntegerFlaw Int
  | value, [] => .ok value
  | value, c :: rest =>
    match digitValue? radix c with
    | none => .error .invalidDigit
    | some digit =>
      let next := if negative then value * radix - digit else value * radix + digit
      if range.holds next then appendDigits range radix negative next rest
      else .error (if negative then .tooSmall else .tooLarge)

/-- An integer with an optional sign; a minus sign is a digit's place where nothing is negative. -/
def readInteger (range : IntegerRange) (radix : Nat) (cs : List Char) : Except IntegerFlaw Int :=
  match cs with
  | [] => .error .empty
  | ['+'] | ['-'] => .error .invalidDigit
  | '+' :: digits => appendDigits range radix false 0 digits
  | '-' :: digits =>
    if range.low < 0 then appendDigits range radix true 0 digits else .error .invalidDigit
  | digits => appendDigits range radix false 0 digits

/-- A decimal integer of 64 bits with a sign. -/
def readInt64 (s : String) : Except IntegerFlaw Int := readInteger .signed64 10 s.toList

/-- The lower-case hexadecimal digits of a natural number. -/
def hexDigits (n : Nat) : String := String.ofList (Nat.toDigits 16 n)

end DebugAdapter.Text
