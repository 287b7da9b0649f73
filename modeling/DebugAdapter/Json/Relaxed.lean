import DebugAdapter.Json.Basic
import DebugAdapter.Json.Document
import DebugAdapter.Text.Alphanumeric
import DebugAdapter.Text.Blank
import DebugAdapter.Text.Integer
/-!
# Relaxed JSON

The dialect of files that people write: JSON with comments, commas that may be missing between two
items or trail the last one, texts between single quotes, and keys that are bare words or numbers.
An empty file is a file without a value. Of equal keys the last one counts.
-/

namespace DebugAdapter.Json.Relaxed

/-- A word, a mark or a value that is no container. -/
inductive Token where
  | braceOpen
  | braceClose
  | bracketOpen
  | bracketClose
  | comma
  | colon
  | string (value : String)
  | word (text : String)
  | number (text : String)
  | bool (value : Bool)
  | null
deriving DecidableEq, Repr

/-! ## Tokens -/

/-- A character of a code point that is no surrogate. -/
def charOf? (n : Nat) : Option Char := if h : n.isValidChar then some (Char.ofNatAux n h) else none

/-- The character whose code point four hexadecimal digits give. -/
def hexChar? (digits : List Char) : Option Char := do
  let values ← digits.mapM (Text.digitValue? 16)
  charOf? (values.foldl (fun n v => 16 * n + v) 0)

/-- The character that a letter behind a backslash stands for; of the two quotes only the one that
ends the text may be escaped. -/
def escaped? (quote c : Char) : Option Char :=
  if c = quote || c = '\\' || c = '/' then some c
  else if c = 'b' then some '\x08'
  else if c = 'f' then some '\x0C'
  else if c = 'n' then some '\n'
  else if c = 'r' then some '\r'
  else if c = 't' then some '\t'
  else none

/-- The rest of a text behind its first quote, and what follows it; the characters so far are
kept in reverse. -/
def stringToken (quote : Char) (seen : List Char) : List Char → Option (String × List Char)
  | [] => none
  | '\\' :: 'u' :: a :: b :: c :: d :: rest =>
    match hexChar? [a, b, c, d] with
    | some c => stringToken quote (c :: seen) rest
    | none => none
  | '\\' :: e :: rest =>
    match escaped? quote e with
    | some c => stringToken quote (c :: seen) rest
    | none => none
  | c :: rest =>
    if c = quote then some (String.ofList seen.reverse, rest)
    else stringToken quote (c :: seen) rest

/-- The digits at the start of a text. -/
def digits (cs : List Char) : List Char × List Char :=
  (cs.takeWhile (·.isDigit), cs.dropWhile (·.isDigit))

/-- The digits at the start of a text, of which there has to be one. -/
def someDigits (cs : List Char) : Option (List Char × List Char) :=
  if (digits cs).1.isEmpty then none else some (digits cs)

/-- The digits before the point: a zero stands alone. -/
def wholeDigits : List Char → Option (List Char × List Char)
  | '0' :: rest => some (['0'], rest)
  | cs => someDigits cs

/-- A point with digits, if there is one. -/
def fraction : List Char → Option (List Char × List Char)
  | '.' :: rest => (someDigits rest).map fun (ds, rest) => ('.' :: ds, rest)
  | cs => some ([], cs)

/-- An exponent, if there is one. -/
def exponent : List Char → Option (List Char × List Char)
  | e :: rest =>
    if e = 'e' || e = 'E' then
      match rest with
      | sign :: rest' =>
        if sign = '+' || sign = '-' then
          (someDigits rest').map fun (ds, rest) => (e :: sign :: ds, rest)
        else (someDigits rest).map fun (ds, rest) => (e :: ds, rest)
      | [] => none
    else some ([], e :: rest)
  | [] => some ([], [])

/-- A number without its sign. -/
def unsignedNumber (cs : List Char) : Option (List Char × List Char) := do
  let (whole, cs) ← wholeDigits cs
  let (frac, cs) ← fraction cs
  let (power, cs) ← exponent cs
  return (whole ++ frac ++ power, cs)

/-- A number. -/
def number : List Char → Option (List Char × List Char)
  | '-' :: rest => (unsignedNumber rest).map fun (ds, rest) => ('-' :: ds, rest)
  | cs => unsignedNumber cs

/-- What follows a reserved word, if the text starts with it and it does not go on. -/
def afterReserved? (word : String) (cs : List Char) : Option (List Char) :=
  if word.toList.isPrefixOf cs then
    let rest := cs.drop word.toList.length
    match rest with
    | c :: _ => if Text.isAlphanumeric c then none else some rest
    | [] => some rest
  else none

/-- A bare word: letters, digits and hyphens up to a blank or a colon. -/
def wordChars : List Char → Option (List Char × List Char)
  | [] => some ([], [])
  | c :: rest =>
    if Text.isBlank c || c = ':' then some ([], c :: rest)
    else if Text.isAlphanumeric c || c = '-' then
      (wordChars rest).map fun (word, rest) => (c :: word, rest)
    else none

/-- A bare word of at least one character. -/
def word (cs : List Char) : Option (Token × List Char) :=
  match wordChars cs with
  | some (c :: w, rest) => some (.word (String.ofList (c :: w)), rest)
  | _ => none

/-- A number, a reserved word or a bare word. -/
def plainToken (cs : List Char) : Option (Token × List Char) :=
  match cs with
  | c :: _ =>
    if c = '-' || c.isDigit then
      (number cs).map fun (ds, rest) => (.number (String.ofList ds), rest)
    else
      match afterReserved? "true" cs, afterReserved? "false" cs, afterReserved? "null" cs with
      | some rest, _, _ => some (.bool true, rest)
      | none, some rest, _ => some (.bool false, rest)
      | none, none, some rest => some (.null, rest)
      | none, none, none => word cs
  | [] => none

/-- Whether a line ends here. -/
def atLineEnd : List Char → Bool
  | '\n' :: _ => true
  | '\r' :: '\n' :: _ => true
  | _ => false

/-- What follows a comment that lasts to the end of its line. -/
def afterLineComment : List Char → List Char
  | [] => []
  | c :: rest => if atLineEnd (c :: rest) then c :: rest else afterLineComment rest

/-- What follows the marks that close a comment. -/
def afterBlockComment? : List Char → Option (List Char)
  | [] => none
  | '*' :: '/' :: rest => some rest
  | _ :: rest => afterBlockComment? rest

/-- The next token that is no comment, and what follows it; `none` inside is the end of the text,
and `none` outside a flaw. Each round but the last takes a comment. -/
def nextToken : Nat → List Char → Option (Option (Token × List Char))
  | 0, _ => none
  | fuel + 1, cs =>
    match cs.dropWhile Text.isBlank with
    | [] => some none
    | '\x7b' :: rest => some (some (.braceOpen, rest))
    | '\x7d' :: rest => some (some (.braceClose, rest))
    | '[' :: rest => some (some (.bracketOpen, rest))
    | ']' :: rest => some (some (.bracketClose, rest))
    | ',' :: rest => some (some (.comma, rest))
    | ':' :: rest => some (some (.colon, rest))
    | '/' :: '/' :: rest => nextToken fuel (afterLineComment rest)
    | '/' :: '*' :: rest => (afterBlockComment? rest).bind (nextToken fuel)
    | c :: rest =>
      if c = '"' || c = '\'' then
        (stringToken c [] rest).map fun (s, rest) => some (.string s, rest)
      else (plainToken (c :: rest)).map some

/-- The tokens of a text; each takes at least one character, so `fuel` need only exceed their
number. -/
def tokensWith : Nat → List Char → Option (List Token)
  | 0, _ => none
  | fuel + 1, cs => do
    match ← nextToken (fuel + 1) cs with
    | none => return []
    | some (t, rest) =>
      let ts ← tokensWith fuel rest
      return t :: ts

/-- The tokens of a text. -/
def tokens (cs : List Char) : Option (List Token) := tokensWith (cs.length + 1) cs

/-! ## Values -/

/-- A number as a value; one that is out of range is kept as text. -/
def numberValue (text : String) : Json :=
  match (Document.ofBytes (Utf8.encode text)).value with
  | .number n => .number n
  | _ => .string text

/-- A comma behind an item; one before the closing mark is allowed, two in a row are not. -/
def skipComma : List Token → List Token
  | .comma :: rest => rest
  | ts => ts

mutual

/-- A value, and the tokens behind it. -/
def value : Nat → List Token → Option (Json × List Token)
  | 0, _ => none
  | fuel + 1, ts =>
    match ts with
    | .braceOpen :: rest =>
      (members fuel rest).map fun (ms, rest) => (.object (sortMembers ms), rest)
    | .bracketOpen :: rest => (items fuel rest).map fun (vs, rest) => (.array vs, rest)
    | .string s :: rest => some (.string s, rest)
    | .number n :: rest => some (numberValue n, rest)
    | .bool b :: rest => some (.bool b, rest)
    | .null :: rest => some (.null, rest)
    | _ => none

/-- The items of an array behind its opening mark. -/
def items : Nat → List Token → Option (List Json × List Token)
  | 0, _ => none
  | fuel + 1, ts =>
    match ts with
    | .bracketClose :: rest => some ([], rest)
    | ts => do
      let (v, rest) ← value fuel ts
      let (vs, rest) ← items fuel (skipComma rest)
      return (v :: vs, rest)

/-- The members of an object behind its opening mark. -/
def members : Nat → List Token → Option (List (String × Json) × List Token)
  | 0, _ => none
  | fuel + 1, ts =>
    match ts with
    | .braceClose :: rest => some ([], rest)
    | .string key :: .colon :: rest | .word key :: .colon :: rest
    | .number key :: .colon :: rest => do
      let (v, rest) ← value fuel rest
      let (ms, rest) ← members fuel (skipComma rest)
      return ((key, v) :: ms, rest)
    | _ => none

end

/-- The value of a text, if it has one; nothing may follow the value. -/
def ofText? (s : String) : Option (Option Json) := do
  match ← tokens s.toList with
  | [] => return none
  | ts =>
    match ← value (2 * ts.length + 2) ts with
    | (v, []) => return some v
    | _ => none

end DebugAdapter.Json.Relaxed
