import DebugAdapter.Json.Numeral
import DebugAdapter.Text.Utf8
/-!
# Documents

What a JSON text turns out to hold, read from the left up to the first place where it is no JSON
any more. A reader that wants a particular shape looks at the document in the same order, so it
reports the first thing that is wrong, be it the text or the shape.

Some things are wrong only for a reader that wants the value and not for one that skips it: a
string whose escapes or octets denote no text, a number beyond the range, a container nested too
deep. Such a value is in the document as what it is, and reading it is what fails.
-/

namespace DebugAdapter

/-- What is wrong with a text that is no JSON. -/
inductive Fault where
  /-- Something stands where it may not. -/
  | malformed
  /-- The text ends too early. -/
  | truncated
deriving DecidableEq, Repr, Inhabited

/-- The place where a text stops being JSON, as three readers report it: one of the value, one that
skips it, and one that looks for a name and goes by the first character. -/
structure Breakage where
  read : Fault
  skip : Fault
  choose : Fault := read
deriving DecidableEq, Repr, Inhabited

/-- The same fault for all readers. -/
def Breakage.both (f : Fault) : Breakage := { read := f, skip := f }

/-- What stands where a member's key should. -/
inductive Key where
  | text (value : String)
  /-- A string whose octets or escapes denote no text. -/
  | unreadable
  /-- No complete string. -/
  | absent (breakage : Breakage)
deriving DecidableEq, Repr, Inhabited

/-- The key for a reader who wants it. -/
def Key.read : Key → Except Fault String
  | .text k => .ok k
  | .unreadable => .error .malformed
  | .absent b => .error b.read

/-- What a JSON text holds. -/
inductive Document where
  | null
  | bool (value : Bool)
  | number (value : Number)
  /-- A number beyond the range of floating-point numbers. -/
  | outOfRange
  | string (value : String)
  /-- A string whose octets or escapes denote no text. -/
  | unreadable
  /-- Items up to the end or to the breakage; `shallow` as long as the nesting is allowed. -/
  | array (shallow : Bool) (items : List Document) (ending : Option Breakage)
  /-- Members up to the end or to the breakage; with an absent key stands what was found instead of
  it. -/
  | object (shallow : Bool) (members : List (Key × Document)) (ending : Option Breakage)
  /-- No value begins here, or it breaks off. -/
  | broken (breakage : Breakage)
deriving Inhabited

namespace Document

/-- How many containers may be open at once. -/
def maxDepth : Nat := 127

/-- The blanks of JSON. -/
def isBlank (b : UInt8) : Bool := b == 0x20 || b == 0x0A || b == 0x09 || b == 0x0D

/-- The text from the first octet on that is no blank. -/
def skipBlanks (bs : Bytes) : Bytes := bs.dropWhile isBlank

/-- A digit. -/
def isDigit (b : UInt8) : Bool := 0x30 ≤ b && b ≤ 0x39

/-! ## Strings -/

/-- The value of a hexadecimal digit. -/
def hexValue? (b : UInt8) : Option Nat :=
  if 0x30 ≤ b ∧ b ≤ 0x39 then some (b.toNat - 0x30)
  else if 0x61 ≤ b ∧ b ≤ 0x66 then some (b.toNat - 0x61 + 10)
  else if 0x41 ≤ b ∧ b ≤ 0x46 then some (b.toNat - 0x41 + 10)
  else none

/-- The octet that an escape of one letter denotes. -/
def escapedOctet? (b : UInt8) : Option UInt8 :=
  if b = 0x22 ∨ b = 0x5C ∨ b = 0x2F then some b
  else if b = 0x62 then some 0x08
  else if b = 0x66 then some 0x0C
  else if b = 0x6E then some 0x0A
  else if b = 0x72 then some 0x0D
  else if b = 0x74 then some 0x09
  else none

/-- The first half of a surrogate pair. -/
def isLeadSurrogate (n : Nat) : Bool := 0xD800 ≤ n && n ≤ 0xDBFF

/-- The second half of a surrogate pair. -/
def isTrailSurrogate (n : Nat) : Bool := 0xDC00 ≤ n && n ≤ 0xDFFF

/-- Where a string's reader is. -/
inductive StringState where
  | plain
  /-- Behind a backslash. -/
  | escape
  /-- Among the four digits of an escape; `code` is nothing once a digit was none. -/
  | hex (more : Nat) (code : Option Nat) (lead : Option Nat)
  /-- Behind the first half of a surrogate pair. -/
  | afterLead (lead : Nat)
  /-- Behind the first half of a surrogate pair and a backslash. -/
  | escapeAfterLead (lead : Nat)
deriving DecidableEq, Repr

/-- A string in a text: what it denotes, if anything, and what follows it. -/
inductive StringToken where
  | complete (text : Option String) (rest : Bytes)
  | broken (breakage : Breakage)
deriving Repr

/-- What one octet of a string does: it moves the reader on with some octets of text and perhaps
a flaw, ends the string, or breaks it. -/
inductive StringMove where
  | next (state : StringState) (octets : Bytes) (flawed : Bool)
  | close
  | break_

/-- An octet outside escapes. -/
def plainMove (b : UInt8) : StringMove :=
  if b = 0x22 then .close
  else if b = 0x5C then .next .escape [] false
  else if b < 0x20 then .break_
  else .next .plain [b] false

/-- The octet behind a backslash. -/
def escapeMove (b : UInt8) : StringMove :=
  match escapedOctet? b with
  | some o => .next .plain [o] false
  | none => if b = 0x75 then .next (.hex 3 (some 0) none) [] false else .break_

/-- The same move with a flaw. -/
def StringMove.flaw : StringMove → StringMove
  | .next st os _ => .next st os true
  | m => m

/-- The end of an escape's four digits. -/
def codeMove (code : Nat) (lead : Option Nat) : StringMove :=
  match lead with
  | none =>
    if isTrailSurrogate code then .next .plain [] true
    else if isLeadSurrogate code then .next (.afterLead code) [] false
    else .next .plain (String.utf8EncodeChar (Char.ofNat code)) false
  | some high =>
    if isTrailSurrogate code then
      let c := Char.ofNat (0x10000 + (high - 0xD800) * 0x400 + (code - 0xDC00))
      .next .plain (String.utf8EncodeChar c) false
    else .next .plain [] true

/-- What one octet does. -/
def stringMove : StringState → UInt8 → StringMove
  | .plain, b => plainMove b
  | .escape, b => escapeMove b
  | .hex more code lead, b =>
    let code := code.bind fun n => (hexValue? b).map (n * 16 + ·)
    match more, code with
    | 0, some n => codeMove n lead
    | 0, none => .break_
    | more + 1, code => .next (.hex more code lead) [] false
  | .afterLead lead, b =>
    if b = 0x5C then .next (.escapeAfterLead lead) [] false else (plainMove b).flaw
  | .escapeAfterLead lead, b =>
    if b = 0x75 then .next (.hex 3 (some 0) (some lead)) [] false else (escapeMove b).flaw

/-- The string from here to its closing quote. `seen` holds its octets so far, the last one first,
and `flawed` says whether an escape denoted no text; a flaw met before the breakage counts as what
a reader of the value reports. -/
def stringFrom (st : StringState) (flawed : Bool) (seen : Bytes) : Bytes → StringToken
  | [] => .broken { read := if flawed then .malformed else .truncated, skip := .truncated }
  | b :: rest =>
    match stringMove st b with
    | .next st' octets flaw => stringFrom st' (flawed || flaw) (octets.reverse ++ seen) rest
    | .close =>
      .complete (if flawed || st != .plain then none else Utf8.decode? seen.reverse) rest
    | .break_ => .broken (.both .malformed)

/-- The string behind an opening quote. -/
def stringAfterQuote (bs : Bytes) : StringToken := stringFrom .plain false [] bs

/-! ## Numbers -/

/-- The digits at the start of a text, and what follows them. -/
def splitDigits (bs : Bytes) : Bytes × Bytes := (bs.takeWhile isDigit, bs.dropWhile isDigit)

/-- A digit is missing here. Only a reader of the value tells the end of the text apart. -/
def digitMissing (rest : Bytes) : Breakage :=
  match rest with
  | [] => { read := .truncated, skip := .malformed, choose := .malformed }
  | _ => .both .malformed

/-- The digits before the point: a zero stands alone. -/
def wholeDigits (bs : Bytes) : Except Breakage (Bytes × Bytes) :=
  match splitDigits bs with
  | ([], rest) => .error (digitMissing rest)
  | ([d], rest) => .ok ([d], rest)
  | (ds, rest) => if ds.head? = some 0x30 then .error (.both .malformed) else .ok (ds, rest)

/-- The digits behind the point, if there is one. -/
def fractionDigits : Bytes → Except Breakage (Option Bytes × Bytes)
  | 0x2E :: bs =>
    match splitDigits bs with
    | ([], rest) => .error (digitMissing rest)
    | (ds, rest) => .ok (some ds, rest)
  | bs => .ok (none, bs)

/-- The sign and digits of an exponent, if there is one. -/
def exponentDigits : Bytes → Except Breakage (Option (Bool × Bytes) × Bytes)
  | [] => .ok (none, [])
  | b :: bs =>
    if b = 0x65 ∨ b = 0x45 then
      let (down, bs) :=
        match bs with
        | 0x2B :: r => (false, r)
        | 0x2D :: r => (true, r)
        | r => (false, r)
      match splitDigits bs with
      | ([], rest) => .error (digitMissing rest)
      | (ds, rest) => .ok (some (down, ds), rest)
    else .ok (none, b :: bs)

/-- The numeral behind an optional sign. -/
def numeral (negative : Bool) (bs : Bytes) : Except Breakage (Numeral × Bytes) := do
  let (whole, bs) ← wholeDigits bs
  let (fraction, bs) ← fractionDigits bs
  let (exponent, bs) ← exponentDigits bs
  return (⟨negative, whole, fraction, exponent⟩, bs)

/-- A number, and the text behind it. -/
def numberToken (negative : Bool) (bs : Bytes) : Document × Option Bytes :=
  match numeral negative bs with
  | .error b => (.broken b, none)
  | .ok (n, rest) =>
    match n.value? with
    | some v => (.number v, some rest)
    | none => (.outOfRange, some rest)

/-! ## Values -/

/-- The text behind a word that has to stand here. -/
def afterWord : Bytes → Bytes → Except Fault Bytes
  | [], bs => .ok bs
  | _ :: _, [] => .error .truncated
  | w :: ws, b :: bs => if b = w then afterWord ws bs else .error .malformed

/-- A value that is the word `word`. -/
def literal (value : Document) (word : Bytes) (bs : Bytes) : Document × Option Bytes :=
  match afterWord word bs with
  | .ok rest => (value, some rest)
  | .error f => (.broken { read := f, skip := f, choose := .malformed }, none)

/-- The end of the text, or something that may not stand here. -/
def faultAt (bs : Bytes) : Fault := if bs.isEmpty then .truncated else .malformed

mutual

/-- The value at the start of a text inside `depth` open containers, and the text behind it unless
the value is broken. `fuel` is at least the text's length. -/
def valueFrom : Nat → Nat → Bytes → Document × Option Bytes
  | 0, _, _ => (.broken (.both .truncated), none)
  | fuel + 1, depth, bs =>
    match skipBlanks bs with
    | [] => (.broken (.both .truncated), none)
    | b :: rest =>
      if b = 0x22 then
        match stringAfterQuote rest with
        | .complete (some s) rest => (.string s, some rest)
        | .complete none rest => (.unreadable, some rest)
        | .broken br => (.broken br, none)
      else if b = 0x5B then
        let (items, ending, rest) := itemsFrom fuel (depth + 1) true rest
        (.array (depth < maxDepth) items ending, rest)
      else if b = 0x7B then
        let (members, ending, rest) := membersFrom fuel (depth + 1) true rest
        (.object (depth < maxDepth) members ending, rest)
      else if b = 0x2D then numberToken true rest
      else if isDigit b then numberToken false (b :: rest)
      else if b = 0x6E then literal .null [0x75, 0x6C, 0x6C] rest
      else if b = 0x74 then literal (.bool true) [0x72, 0x75, 0x65] rest
      else if b = 0x66 then literal (.bool false) [0x61, 0x6C, 0x73, 0x65] rest
      else (.broken (.both .malformed), none)

/-- The items of an array up to its end. -/
def itemsFrom : Nat → Nat → Bool → Bytes → List Document × Option Breakage × Option Bytes
  | 0, _, _, _ => ([], some (.both .truncated), none)
  | fuel + 1, depth, first, bs =>
    match skipBlanks bs with
    | [] => ([], some (.both .truncated), none)
    | b :: rest =>
      if b = 0x5D then ([], none, some rest)
      else if first || b == 0x2C then
        let start := if first then b :: rest else rest
        match valueFrom fuel depth start with
        | (d, none) => ([d], none, none)
        | (d, some rest) =>
          let (ds, ending, rest) := itemsFrom fuel depth false rest
          (d :: ds, ending, rest)
      else ([], some (.both .malformed), none)

/-- The members of an object up to its end. -/
def membersFrom : Nat → Nat → Bool → Bytes →
    List (Key × Document) × Option Breakage × Option Bytes
  | 0, _, _, _ => ([], some (.both .truncated), none)
  | fuel + 1, depth, first, bs =>
    match skipBlanks bs with
    | [] => ([], some (.both .truncated), none)
    | b :: rest =>
      if b = 0x7D then ([], none, some rest)
      else if first || b == 0x2C then
        match skipBlanks (if first then b :: rest else rest) with
        | 0x22 :: rest =>
          match stringAfterQuote rest with
          | .broken br => ([(.absent br, .broken br)], none, none)
          | .complete text rest =>
            let key := text.elim .unreadable .text
            match skipBlanks rest with
            | 0x3A :: rest =>
              match valueFrom fuel depth rest with
              | (d, none) => ([(key, d)], none, none)
              | (d, some rest) =>
                let (ms, ending, rest) := membersFrom fuel depth false rest
                ((key, d) :: ms, ending, rest)
            | other => ([(key, .broken (.both (faultAt other)))], none, none)
        | other =>
          ([(.absent (.both (faultAt other)), (valueFrom fuel depth other).1)], none, none)
      else ([], some (.both .malformed), none)

end

/-- A text as a whole: its value, and whether nothing but blanks follows. -/
structure Whole where
  value : Document
  /-- Something stands behind the value. -/
  trailing : Bool
deriving Inhabited

/-- What a text holds. A value and the items around it are read with one unit of fuel each, and each
reads at least one octet or ends. -/
def ofBytes (bs : Bytes) : Whole :=
  match valueFrom (2 * bs.length + 2) 0 bs with
  | (d, none) => ⟨d, false⟩
  | (d, some rest) => ⟨d, !(skipBlanks rest).isEmpty⟩

mutual

/-- A value as the document that holds it. -/
def ofJson : Json → Document
  | .null => .null
  | .bool b => .bool b
  | .number n => .number n
  | .string s => .string s
  | .array items => .array true (ofItems items) none
  | .object members => .object true (ofMembers members) none

/-- Some values as documents. -/
def ofItems : List Json → List Document
  | [] => []
  | v :: rest => ofJson v :: ofItems rest

/-- Some members with documents as values. -/
def ofMembers : List (String × Json) → List (Key × Document)
  | [] => []
  | (k, v) :: rest => (.text k, ofJson v) :: ofMembers rest

end

end Document

end DebugAdapter
