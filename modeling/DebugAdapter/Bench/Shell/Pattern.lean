import DebugAdapter.Bench.Shell.Script
/-!
# Patterns

Patterns with `*` for any text, `?` for any character and brackets for one of several characters. A
character of a pattern that was quoted stands for itself.
-/

namespace DebugAdapter.Bench.Shell

/-- A character, and whether it was quoted. -/
structure Mark where
  char : Char
  quoted : Bool := false
deriving DecidableEq, Repr, Inhabited

/-- A pattern. -/
abbrev Pattern := List Mark

namespace Pattern

/-- The members of a class of characters. -/
def classHolds? (name : String) (c : Char) : Bool :=
  match name with
  | "alpha" => c.isAlpha
  | "digit" => c.isDigit
  | "alnum" => c.isAlphanum
  | "upper" => c.isUpper
  | "lower" => c.isLower
  | "space" => [' ', '\t', '\n', '\x0B', '\x0C', '\r'].contains c
  | "blank" => c == ' ' || c == '\t'
  | "punct" => '\x20' < c && c < '\x7F' && !c.isAlphanum
  | "print" => '\x20' ≤ c && c < '\x7F'
  | "graph" => '\x20' < c && c < '\x7F'
  | "cntrl" => c < '\x20' || c == '\x7F'
  | "xdigit" => c.isDigit || ('a' ≤ c && c ≤ 'f') || ('A' ≤ c && c ≤ 'F')
  | _ => false

/-- The name of a class behind its opening, and what follows it. -/
def className? (p : Pattern) : Option (String × Pattern) :=
  let name := p.takeWhile (·.char.isAlpha)
  match p.drop name.length with
  | ⟨':', _⟩ :: ⟨']', _⟩ :: rest => some (String.ofList (name.map (·.char)), rest)
  | _ => none

/-- Whether a bracket holds a character, and what follows it; nothing if it is not closed. Every
round uses a character of the pattern up, so `fuel` need not exceed their number. -/
def bracket? (c : Char) : Nat → Bool → Bool → Pattern → Option (Bool × Pattern)
  | 0, _, _, _ => none
  | _ + 1, _, _, [] => none
  | fuel + 1, first, found, m :: rest =>
    if m.char = ']' && !m.quoted && !first then some (found, rest)
    else
      match m.char, m.quoted, rest with
      | '[', false, ⟨':', _⟩ :: more =>
        match className? more with
        | some (name, rest) => bracket? c fuel false (found || classHolds? name c) rest
        | none => bracket? c fuel false (found || c == '[') rest
      | low, _, ⟨'-', false⟩ :: high :: more =>
        if high.char = ']' && !high.quoted then
          bracket? c fuel false (found || c == low || c == '-') (high :: more)
        else bracket? c fuel false (found || (low ≤ c && c ≤ high.char)) more
      | low, _, _ => bracket? c fuel false (found || c == low) rest

/-- Whether a text matches a pattern. Every round uses a character of one of them up, so `fuel` need
not exceed the sum of their lengths. -/
def matchesWith : Nat → Pattern → List Char → Bool
  | 0, _, _ => false
  | _ + 1, [], cs => cs.isEmpty
  | fuel + 1, m :: p, cs =>
    match m.char, m.quoted, cs with
    | '*', false, [] => matchesWith fuel p []
    | '*', false, _ :: rest => matchesWith fuel p cs || matchesWith fuel (m :: p) rest
    | '?', false, _ :: rest => matchesWith fuel p rest
    | '[', false, c :: rest =>
      let negated := p.head?.any fun m => (m.char == '!' || m.char == '^') && !m.quoted
      match bracket? c (p.length + 1) true false (if negated then p.drop 1 else p) with
      | some (found, p) => (found != negated) && matchesWith fuel p rest
      | none => c == '[' && matchesWith fuel p rest
    | d, _, c :: rest => c == d && matchesWith fuel p rest
    | _, _, [] => false

/-- Whether a text matches a pattern. -/
def holds (p : Pattern) (cs : List Char) : Bool := matchesWith (p.length + cs.length + 1) p cs

/-- A text without its longest or shortest start that matches. -/
def trimStart (longest : Bool) (p : Pattern) (cs : List Char) : List Char :=
  let lengths := List.range (cs.length + 1)
  let lengths := if longest then lengths.reverse else lengths
  match lengths.find? fun n => p.holds (cs.take n) with
  | some n => cs.drop n
  | none => cs

/-- A text without its longest or shortest end that matches. -/
def trimEnd (longest : Bool) (p : Pattern) (cs : List Char) : List Char :=
  let lengths := List.range (cs.length + 1)
  let lengths := if longest then lengths else lengths.reverse
  match lengths.find? fun n => p.holds (cs.drop n) with
  | some n => cs.take n
  | none => cs

end Pattern

end DebugAdapter.Bench.Shell
