import DebugAdapter.Bench.Shell.Script
import DebugAdapter.Text.Integer
/-!
# Arithmetic

Expressions over integers of 64 bits, which wrap. Names stand for the values of parameters; one
without a value is zero. A part that is not needed for the result is read but changes nothing.
-/

namespace DebugAdapter.Bench.Shell.Arithmetic

/-- A part of an expression. -/
inductive Symbol where
  | number (n : Int)
  | name (s : String)
  | operator (s : String)
deriving DecidableEq, Repr, Inhabited

/-- The values of parameters. -/
abbrev Values := String → Option String

/-- A flaw of an expression or of a value that it uses. -/
inductive Failure where
  | expression (text : String)
  | value (text : String)
deriving DecidableEq, Repr, Inhabited

/-- A number of 64 bits. -/
def wrap (n : Int) : Int := n.bmod 18446744073709551616

/-- The value of a digit in some base. -/
def digitValue (base : Nat) (c : Char) : Option Nat :=
  let n :=
    if c.isDigit then c.toNat - '0'.toNat
    else if 'a' ≤ c ∧ c ≤ 'z' then c.toNat - 'a'.toNat + 10
    else if 'A' ≤ c ∧ c ≤ 'Z' then c.toNat - 'A'.toNat + 10
    else base
  if n < base then some n else none

/-- The number that digits stand for. -/
def numberOf (base : Nat) (cs : List Char) : Nat :=
  cs.foldl (fun n c => base * n + (digitValue base c).getD 0) 0

/-- The unsigned number at the start of a text, in the base that its first digits say, and what
follows it; nothing if there is no digit. -/
def unsigned? (cs : List Char) : Option (Nat × List Char) :=
  let digits (base : Nat) (cs : List Char) : Option (Nat × List Char) :=
    let ds := cs.takeWhile fun c => (digitValue base c).isSome
    if ds.isEmpty then none else some (numberOf base ds, cs.drop ds.length)
  match cs with
  | '0' :: x :: rest =>
    if x = 'x' ∨ x = 'X' then (digits 16 rest).orElse fun _ => some (0, x :: rest)
    else digits 8 cs
  | _ => digits 10 cs

/-- The greatest number of 64 bits with a sign. -/
def greatest : Int := 9223372036854775807

/-- A number within the range of 64 bits with a sign. -/
def clamp (n : Int) : Int := max (-greatest - 1) (min greatest n)

/-- The number at the start of a text, behind blanks and a sign, and what follows it. -/
def integer? (cs : List Char) : Option (Int × List Char) :=
  match cs.dropWhile Char.isWhitespace with
  | '-' :: rest => (unsigned? rest).map fun (n, rest) => (-(n : Int), rest)
  | '+' :: rest => (unsigned? rest).map fun (n, rest) => ((n : Int), rest)
  | rest => (unsigned? rest).map fun (n, rest) => ((n : Int), rest)

/-- The decimal integer that a text is, apart from blanks around it. -/
def decimal? (s : String) : Option Int :=
  let cs := (s.toList.dropWhile Char.isWhitespace).reverse.dropWhile Char.isWhitespace |>.reverse
  let digits (cs : List Char) : Option Int :=
    if !cs.isEmpty && cs.all Char.isDigit then some (numberOf 10 cs : Nat) else none
  match cs with
  | '-' :: ds => (digits ds).map (-·)
  | '+' :: ds => digits ds
  | ds => digits ds

/-- The operators, longer ones first. -/
def operators : List String :=
  ["<<=", ">>=", "&&", "||", "==", "!=", "<=", ">=", "<<", ">>", "+=", "-=", "*=", "/=", "%=", "&=",
    "|=", "^=", "+", "-", "*", "/", "%", "<", ">", "=", "!", "~", "&", "|", "^", "?", ":", "(", ")"]

/-- The parts of an expression; a character that belongs to none is an operator that nothing
accepts. Each round uses a character up, so `fuel` need not exceed their number. -/
def symbols : Nat → List Char → List Symbol
  | 0, _ => []
  | _ + 1, [] => []
  | fuel + 1, c :: rest =>
    if c = ' ' ∨ c = '\t' ∨ c = '\n' then symbols fuel rest
    else if c.isDigit then
      match unsigned? (c :: rest) with
      | some (n, rest) => .number (clamp n) :: symbols fuel rest
      | none => []
    else if isNameStart c then
      .name (String.ofList ((c :: rest).takeWhile isNameChar))
        :: symbols fuel ((c :: rest).dropWhile isNameChar)
    else
      match operators.find? fun o => o.toList.isPrefixOf (c :: rest) with
      | some o => .operator o :: symbols fuel ((c :: rest).drop o.length)
      | none => .operator c.toString :: symbols fuel rest

/-- Where an evaluation is. -/
structure Progress where
  rest : List Symbol
  /-- The values given to parameters, the last one first. -/
  given : List (String × Int) := []
deriving Inhabited

/-- An evaluation of a part of an expression. -/
abbrev Evaluation := StateT Progress (Except Failure)

/-- The expression is none. -/
def flaw {α : Type} (text : String) : Evaluation α := throw (.expression text)

/-- The operator that comes next. -/
def operator? : Evaluation (Option String) := do
  match (← get).rest with
  | .operator o :: _ => return some o
  | _ => return none

/-- The next symbol is used up. -/
def advance : Evaluation Unit := modify fun s => { s with rest := s.rest.drop 1 }

/-- The value of a parameter. -/
def valueOf (values : Values) (name : String) : Evaluation Int := do
  match (← get).given.lookup name, values name with
  | some n, _ => return n
  | none, none => return 0
  | none, some s =>
    if s.isEmpty then return 0
    match integer? s.toList with
    | some (n, []) => return clamp n
    | _ => throw (.value s)

/-- How tightly an operator between two values binds. -/
def tightness? : String → Option Nat
  | "*" | "/" | "%" => some 10
  | "+" | "-" => some 9
  | "<<" | ">>" => some 8
  | "<" | "<=" | ">" | ">=" => some 7
  | "==" | "!=" => some 6
  | "&" => some 5
  | "^" => some 4
  | "|" => some 3
  | "&&" => some 2
  | "||" => some 1
  | _ => none

/-- One for true and zero for false. -/
def truth (b : Bool) : Int := if b then 1 else 0

/-- A number of 64 bits as a pattern of bits. -/
def bits (n : Int) : UInt64 := UInt64.ofInt n

/-- A pattern of bits as a number with a sign. -/
def ofBits (b : UInt64) : Int := wrap b.toNat

/-- The value of two values with an operator between them. -/
def apply (o : String) (a b : Int) : Evaluation Int :=
  match o with
  | "*" => return wrap (a * b)
  | "/" => if b = 0 then flaw "division by zero" else return wrap (a.tdiv b)
  | "%" => if b = 0 then flaw "division by zero" else return wrap (a.tmod b)
  | "+" => return wrap (a + b)
  | "-" => return wrap (a - b)
  | "<<" => return ofBits (bits a <<< bits b)
  | ">>" => return (Int64.ofInt a >>> Int64.ofInt b).toInt
  | "<" => return truth (a < b)
  | "<=" => return truth (a ≤ b)
  | ">" => return truth (b < a)
  | ">=" => return truth (b ≤ a)
  | "==" => return truth (a = b)
  | "!=" => return truth (a ≠ b)
  | "&" => return ofBits (bits a &&& bits b)
  | "^" => return ofBits (bits a ^^^ bits b)
  | "|" => return ofBits (bits a ||| bits b)
  | _ => return 0

/-- The operator in an assignment that changes a value, or none for a plain one. -/
def changing? (o : String) : Option (Option String) :=
  if o = "=" then some none
  else if ["==", "!=", "<=", ">="].contains o then none
  else if o.endsWith "=" then some (some (String.ofList o.toList.dropLast))
  else none

mutual

/-- An assignment or a condition; `idle` says that its value is not needed. -/
def assignment (values : Values) : Nat → Bool → Evaluation Int
  | 0, _ => pure 0
  | fuel + 1, idle => do
    match (← get).rest with
    | .name x :: .operator o :: _ =>
      match changing? o with
      | none => conditional values fuel idle
      | some change =>
        advance
        advance
        let n ← assignment values fuel idle
        if idle then return n
        let n ←
          match change with
          | none => pure n
          | some o => do apply o (← valueOf values x) n
        modify fun s => { s with given := (x, n) :: s.given }
        return n
    | _ => conditional values fuel idle

/-- One of two values, as a condition holds or not. -/
def conditional (values : Values) : Nat → Bool → Evaluation Int
  | 0, _ => pure 0
  | fuel + 1, idle => do
    let a ← operand values fuel idle
    let a ← joined values fuel idle 1 a
    if (← operator?) != some "?" then return a
    advance
    let b ← assignment values fuel (idle || a == 0)
    if (← operator?) != some ":" then flaw "expecting ':'"
    advance
    let c ← conditional values fuel (idle || a != 0)
    return if a ≠ 0 then b else c

/-- A value with the operators behind it that bind at least as tightly as `least`. -/
def joined (values : Values) : Nat → Bool → Nat → Int → Evaluation Int
  | 0, _, _, a => pure a
  | fuel + 1, idle, least, a => do
    match ← operator? with
    | none => return a
    | some o =>
      match tightness? o with
      | none => return a
      | some t =>
        if t < least then return a
        advance
        let idleNext := idle || (o == "&&" && a == 0) || (o == "||" && a != 0)
        let b ← operand values fuel idleNext
        let b ← joined values fuel idleNext (t + 1) b
        let value ←
          if o = "&&" then pure (truth (a ≠ 0 && b ≠ 0))
          else if o = "||" then pure (truth (a ≠ 0 || b ≠ 0))
          else if idle then pure b
          else apply o a b
        joined values fuel idle least value

/-- A value without operators between values. -/
def operand (values : Values) : Nat → Bool → Evaluation Int
  | 0, _ => pure 0
  | fuel + 1, idle => do
    match (← get).rest with
    | .number n :: _ =>
      advance
      return n
    | .name x :: _ =>
      advance
      if idle then return 0
      valueOf values x
    | .operator "(" :: _ =>
      advance
      let n ← assignment values fuel idle
      if (← operator?) != some ")" then flaw "expecting ')'"
      advance
      return n
    | .operator "+" :: _ =>
      advance
      operand values fuel idle
    | .operator "-" :: _ =>
      advance
      return wrap (-(← operand values fuel idle))
    | .operator "!" :: _ =>
      advance
      return truth ((← operand values fuel idle) = 0)
    | .operator "~" :: _ =>
      advance
      return wrap (-(← operand values fuel idle) - 1)
    | _ => flaw "expecting primary"

end

/-- The value of an expression, and the values that it gives to parameters, the first one first. -/
def evaluate (values : Values) (text : String) : Except Failure (Int × List (String × Int)) := do
  let cs := text.toList
  let parts := symbols (cs.length + 1) cs
  let whole : Evaluation Int := do
    let n ← assignment values (8 * parts.length + 16) false
    if !(← get).rest.isEmpty then flaw "expecting EOF"
    return n
  let (n, s) ← whole.run { rest := parts }
  return (n, s.given.reverse)

end DebugAdapter.Bench.Shell.Arithmetic
