import DebugAdapter.Bench.Shell.Arithmetic
/-!
# Conditions

Conditions on words, as `test` reads them: texts, numbers and files are asked for, and joined with
operators.
-/

namespace DebugAdapter.Bench.Shell.Condition

/-- What is known of a file. -/
inductive Kind where
  | regular (size : Nat)
  | directory
  | device
deriving DecidableEq, Repr, Inhabited

/-- What the conditions are asked of. -/
structure World where
  kindOf? : String → Option Kind

/-- Operators between two words. -/
def binary : List String :=
  ["=", "!=", "<", ">", "-eq", "-ne", "-ge", "-gt", "-le", "-lt", "-nt", "-ot", "-ef"]

/-- Operators before a word. -/
def unary : List String :=
  ["-r", "-w", "-x", "-e", "-f", "-d", "-c", "-b", "-p", "-u", "-g", "-k", "-s", "-t", "-z", "-n",
    "-h", "-O", "-G", "-L", "-S"]

/-- Signs that are operators as well. -/
def others : List String := ["!", "-a", "-o", "(", ")"]

/-- Reads a condition from words; a failure is what is complained about. -/
abbrev Reading := StateT (List String) (Except String)

/-- The role of the first of some words. -/
inductive Role where
  | finish
  | unary
  | binary
  | other
  | operand
deriving DecidableEq, Repr

/-- Whether the word before `ws` has to be an operand although it looks like an operator. -/
def isOperandBefore (ws : List String) : Bool :=
  match ws with
  | [] => true
  | [_] => false
  | w :: _ => binary.contains w

/-- The role of the first of some words. -/
def roleOf : List String → Role
  | [] => .finish
  | w :: rest =>
    if unary.contains w then if isOperandBefore rest then .operand else .unary
    else if binary.contains w then .binary
    else if w = "(" then if rest.isEmpty then .operand else .other
    else if others.contains w then .other
    else .operand

/-- The integer that a word stands for. -/
def integer (s : String) : Except String Int :=
  match Arithmetic.decimal? s with
  | some n => if n = Arithmetic.clamp n then .ok n else .error ("Illegal number: " ++ s)
  | none => .error ("Illegal number: " ++ s)

/-- Whether two words are related. -/
def related (a o b : String) : Except String Bool := do
  match o with
  | "=" => return a == b
  | "!=" => return a != b
  | "<" => return a < b
  | ">" => return b < a
  | "-eq" => return (← integer a) == (← integer b)
  | "-ne" => return (← integer a) != (← integer b)
  | "-ge" => return (← integer b) ≤ (← integer a)
  | "-gt" => return (← integer b) < (← integer a)
  | "-le" => return (← integer a) ≤ (← integer b)
  | "-lt" => return (← integer a) < (← integer b)
  | _ => return false

/-- Whether something holds of a word. -/
def holdsOf (world : World) (o w : String) : Except String Bool := do
  let kind := world.kindOf? w
  match o with
  | "-n" => return !w.isEmpty
  | "-z" => return w.isEmpty
  | "-t" =>
    let _ ← integer w
    return false
  | "-e" | "-r" => return kind.isSome
  | "-w" => return kind.isSome
  | "-x" | "-d" => return kind == some .directory
  | "-c" => return kind == some .device
  | "-f" =>
    match kind with
    | some (.regular _) => return true
    | _ => return false
  | "-s" =>
    match kind with
    | some (.regular n) => return 0 < n
    | some .directory => return true
    | _ => return false
  | _ => return false

mutual

/-- Conditions joined by "or". -/
def disjunction (world : World) : Nat → Reading Bool
  | 0 => pure false
  | fuel + 1 => do
    let a ← conjunction world fuel
    match ← get with
    | "-o" :: rest =>
      set rest
      let b ← disjunction world fuel
      return a || b
    | _ => return a

/-- Conditions joined by "and". -/
def conjunction (world : World) : Nat → Reading Bool
  | 0 => pure false
  | fuel + 1 => do
    let a ← negation world fuel
    match ← get with
    | "-a" :: rest =>
      set rest
      let b ← conjunction world fuel
      return a && b
    | _ => return a

/-- A condition that may be negated. -/
def negation (world : World) : Nat → Reading Bool
  | 0 => pure false
  | fuel + 1 => do
    let ws ← get
    match ws with
    | "!" :: rest =>
      set rest
      return !(← negation world fuel)
    | _ => primary world fuel

/-- A condition on one or two words. -/
def primary (world : World) : Nat → Reading Bool
  | 0 => pure false
  | fuel + 1 => do
    let ws ← get
    match ws with
    | [] => return false
    | w :: rest =>
      if w = "(" && roleOf ws = .other then
        set rest
        match rest with
        | ")" :: _ => return false
        | _ =>
          let a ← disjunction world fuel
          match ← get with
          | ")" :: rest =>
            set rest
            return a
          | _ => throw "closing paren expected"
      else if roleOf ws = .unary then
        match rest with
        | operand :: rest =>
          set rest
          holdsOf world w operand
        | [] => throw (w ++ ": argument expected")
      else
        match rest with
        | o :: more =>
          if roleOf rest = .binary then
            match more with
            | b :: more =>
              set more
              related w o b
            | [] => throw (o ++ ": argument expected")
          else
            set rest
            return !w.isEmpty
        | [] =>
          set rest
          return !w.isEmpty

end

/-- Whether the condition that some words are holds. -/
def holds (world : World) (ws : List String) : Except String Bool := do
  let whole (ws : List String) : Except String Bool := do
    let (a, rest) ← (disjunction world (4 * ws.length + 8)).run ws
    match rest, ws[ws.length - rest.length - 1]? with
    | _ :: _, some w => throw (w ++ ": unexpected operator")
    | _, _ => return a
  match ws with
  | [] => return false
  | [a, o, b] =>
    if binary.contains o then related a o b
    else
      match a, b with
      | "(", ")" => whole [o]
      | "!", _ => return !(← whole [o, b])
      | _, _ => whole ws
  | [a, b, c, d] =>
    if a = "(" && d = ")" then whole [b, c]
    else if a = "!" then
      if binary.contains c then return !(← related b c d) else return !(← whole [b, c, d])
    else whole ws
  | ws => whole ws

end DebugAdapter.Bench.Shell.Condition
