import DebugAdapter.Bench.Shell.Arithmetic
import DebugAdapter.Number.Decimal
/-!
# Printed text

The texts that `echo` and `printf` write. Both replace escapes; a number in octal stands for one
octet, so that every octet can be written.
-/

namespace DebugAdapter.Bench.Shell

/-- The value of octal digits. -/
def octalValue (cs : List Char) : Nat := cs.foldl (fun n c => 8 * n + (c.toNat - '0'.toNat)) 0

/-- Whether a character is an octal digit. -/
def isOctal (c : Char) : Bool := '0' ≤ c && c ≤ '7'

/-- The character of an escape with one letter. -/
def letterEscape? : Char → Option Char
  | 'a' => some '\x07'
  | 'b' => some '\x08'
  | 'e' => some '\x1B'
  | 't' => some '\t'
  | 'n' => some '\n'
  | 'v' => some '\x0B'
  | 'f' => some '\x0C'
  | 'r' => some '\r'
  | '\\' => some '\\'
  | _ => none

/-- What follows a backslash: a character of up to three octal digits or one letter, and the rest. A
backslash before anything else stands for itself. -/
def escape (cs : List Char) : Char × List Char :=
  let digits := (cs.take 3).takeWhile isOctal
  if digits.isEmpty then
    match cs with
    | c :: rest =>
      match letterEscape? c with
      | some d => (d, rest)
      | none => ('\\', cs)
    | [] => ('\\', [])
  else (Char.ofNat (octalValue digits % 256), cs.drop digits.length)

/-- A text, and whether no more output follows it. -/
structure Printed where
  text : List Char := []
  stopped : Bool := false
deriving DecidableEq, Repr, Inhabited

/-- A text with its escapes replaced, in which a number may begin with one more zero and `c` ends
all output. Each round uses a character up, so `fuel` need not exceed their number. -/
def unescapeWith : Nat → List Char → Printed
  | 0, _ => {}
  | _ + 1, [] => {}
  | fuel + 1, c :: rest =>
    if c = '\\' then
      match rest with
      | 'c' :: _ => { stopped := true }
      | _ =>
        let rest :=
          match rest with
          | '0' :: d :: more => if isOctal d then d :: more else rest
          | _ => rest
        let (d, rest) := escape rest
        let p := unescapeWith fuel rest
        { p with text := d :: p.text }
    else
      let p := unescapeWith fuel rest
      { p with text := c :: p.text }

/-- A text with its escapes replaced. -/
def unescape (s : String) : Printed := unescapeWith (s.length + 1) s.toList

/-- What `echo` writes: its words, with spaces between them, and a line end unless `-n` comes
first. -/
def echoed (words : List String) : String :=
  let (words, ending) : List String × List Char :=
    match words with
    | "-n" :: words => (words, [])
    | words => (words, ['\n'])
  let p := unescape (" ".intercalate words)
  String.ofList (if p.stopped then p.text else p.text ++ ending)

/-! ## Formats -/

/-- A directive of a format. -/
structure Directive where
  flags : List Char := []
  width : Nat := 0
  precision : Option Nat := none
  letter : Char
deriving Repr, Inhabited

namespace Directive

/-- Whether a flag is set. -/
def has (d : Directive) (c : Char) : Bool := d.flags.contains c

/-- A text filled up to the width. -/
def fill (d : Directive) (cs : List Char) : List Char :=
  let missing := List.replicate (d.width - cs.length) ' '
  if d.has '-' then cs ++ missing else missing ++ cs

/-- A number filled up to the width: zeros go between its sign and its digits. -/
def fillNumber (d : Directive) (zeros : Bool) (sign digits : List Char) : List Char :=
  if zeros && !d.has '-' then
    sign ++ List.replicate (d.width - sign.length - digits.length) '0' ++ digits
  else d.fill (sign ++ digits)

/-- The sign of a number. -/
def signOf (d : Directive) (negative : Bool) : List Char :=
  if negative then ['-'] else if d.has '+' then ['+'] else if d.has ' ' then [' '] else []

/-- Digits with zeros up to the precision; zero has no digits if the precision is zero. -/
def withPrecision (d : Directive) (n : Nat) (digits : List Char) : List Char :=
  match d.precision with
  | some 0 => if n = 0 then [] else digits
  | some p => List.replicate (p - digits.length) '0' ++ digits
  | none => digits

/-- The digits of a number in some base. -/
def digitsOf (base : Nat) (upper : Bool) (n : Nat) : List Char :=
  let ds := Nat.toDigits base n
  if upper then ds.map Char.toUpper else ds

/-- An integer; without a sign it counts from zero to the end of 64 bits. -/
def integerText (d : Directive) (n : Int) : List Char :=
  let unsigned := (n % 18446744073709551616).toNat
  let plain (sign : List Char) (n : Nat) (digits : List Char) : List Char :=
    d.fillNumber (d.has '0' && d.precision.isNone) sign (d.withPrecision n digits)
  match d.letter with
  | 'o' =>
    let digits := digitsOf 8 false unsigned
    plain [] unsigned (if d.has '#' && unsigned ≠ 0 then '0' :: digits else digits)
  | 'x' =>
    let sign := if d.has '#' && unsigned ≠ 0 then ['0', 'x'] else []
    plain sign unsigned (digitsOf 16 false unsigned)
  | 'X' =>
    let sign := if d.has '#' && unsigned ≠ 0 then ['0', 'X'] else []
    plain sign unsigned (digitsOf 16 true unsigned)
  | 'u' => plain [] unsigned (digitsOf 10 false unsigned)
  | _ => plain (d.signOf (n < 0)) n.natAbs (digitsOf 10 false n.natAbs)

/-- The digits of a finite number rounded to so many places behind the point, before and behind
it. -/
def fixedDigits (x : Binary64) (places : Nat) : List Char × List Char :=
  let (n, den) := Binary64.scaledFraction (x.significand * Nat.pow 10 places) 1 (-x.exponent)
  let ds := Nat.toDigits 10 (Binary64.roundedQuotient n den)
  let ds := List.replicate (places + 1 - ds.length) '0' ++ ds
  (ds.take (ds.length - places), ds.drop (ds.length - places))

/-- A number rounded to so many digits behind the first one, and the power of ten of that one. -/
def scientificDigits (x : Binary64) (places : Nat) : List Char × Int :=
  if x.isZero then (List.replicate (places + 1) '0', 0)
  else
    let (num, den) := Binary64.scaledFraction x.significand 1 (-x.exponent)
    let rounded (power : Int) : Nat :=
      let shift := (places : Int) - power
      if 0 ≤ shift then Binary64.roundedQuotient (num * Nat.pow 10 shift.toNat) den
      else Binary64.roundedQuotient num (den * Nat.pow 10 (-shift).toNat)
    let power := Decimal.leadingPower num den
    let ds := Nat.toDigits 10 (rounded power)
    if ds.length ≤ places + 1 then (ds, power)
    else (Nat.toDigits 10 (rounded (power + 1)), power + 1)

/-- An exponent of at least two digits with its sign. -/
def exponentText (e : Int) : List Char :=
  let ds := Nat.toDigits 10 e.natAbs
  'e' :: (if e < 0 then '-' else '+') :: if ds.length < 2 then '0' :: ds else ds

/-- A point with digits behind it, if there are any or the point is wanted. -/
def fractionText (d : Directive) (ds : List Char) : List Char :=
  if ds.isEmpty && !d.has '#' then [] else '.' :: ds

/-- Digits without zeros at the end. -/
def stripped (d : Directive) (ds : List Char) : List Char :=
  if d.has '#' then ds else (ds.reverse.dropWhile (· = '0')).reverse

/-- A number with a point, or with an exponent. -/
def floatText (d : Directive) (x : Binary64) : List Char :=
  let sign := d.signOf x.isNegative
  let cased (cs : List Char) : List Char := if d.letter.isUpper then cs.map Char.toUpper else cs
  if x.isNaN then d.fill (sign ++ cased ['n', 'a', 'n'])
  else if x.isInfinite then d.fill (sign ++ cased ['i', 'n', 'f'])
  else
    let scientific (places : Nat) (strip : Bool) : List Char :=
      let (ds, e) := scientificDigits x places
      let rest := if strip then d.stripped (ds.drop 1) else ds.drop 1
      ds.take 1 ++ d.fractionText rest ++ exponentText e
    let body : List Char :=
      match d.letter.toLower with
      | 'f' =>
        let (whole, fraction) := fixedDigits x (d.precision.getD 6)
        whole ++ d.fractionText fraction
      | 'g' =>
        let digits := max 1 (d.precision.getD 6)
        let e := (scientificDigits x (digits - 1)).2
        if e < -4 ∨ (digits : Int) ≤ e then scientific (digits - 1) true
        else
          let (whole, fraction) := fixedDigits x ((digits : Int) - 1 - e).toNat
          whole ++ d.fractionText (d.stripped fraction)
      | _ => scientific (d.precision.getD 6) false
    d.fillNumber (d.has '0') sign (cased body)

end Directive

/-- What `printf` has written, and what was wrong. -/
structure Formatted where
  /-- What has been written, the last text first. -/
  texts : List (List Char) := []
  /-- The words that have not been used. -/
  words : List String
  complaints : List String := []
  /-- Nothing more is written. -/
  stopped : Bool := false
  /-- The format is none. -/
  broken : Bool := false
deriving Inhabited

namespace Formatted

/-- One more text. -/
def say (f : Formatted) (cs : List Char) : Formatted := { f with texts := cs :: f.texts }

/-- A complaint about a word. -/
def complain (f : Formatted) (text : String) : Formatted :=
  { f with complaints := f.complaints ++ [text] }

/-- The word that comes next is used up. -/
def advance (f : Formatted) : Formatted := { f with words := f.words.drop 1 }

/-- A complaint if not all of a word was a number. -/
def check (f : Formatted) (word : String) (left : List Char) : Formatted :=
  if left.isEmpty then f
  else if left.length = word.length then f.complain (word ++ ": expected numeric value")
  else f.complain (word ++ ": not completely converted")

/-- The integer that the next word stands for; behind a quote, a character stands for itself. -/
def integer (f : Formatted) (signed : Bool) : Int × Formatted :=
  match f.words with
  | [] => (0, f)
  | word :: _ =>
    let f := f.advance
    match word.toList with
    | '"' :: rest | '\'' :: rest => (((rest.head?.map Char.toNat).getD 0 : Nat), f)
    | cs =>
      match Arithmetic.integer? cs with
      | none => (0, f.check word cs)
      | some (n, rest) =>
        let least := if signed then -Arithmetic.greatest - 1 else -18446744073709551615
        let most := if signed then Arithmetic.greatest else 18446744073709551615
        let f := f.check word rest
        let beyond :=
          if rest.isEmpty then f.complain (word ++ ": Numerical result out of range") else f
        if n < least then (if signed then least else most, beyond)
        else if most < n then (most, beyond)
        else (n, f)

/-- The longest start of a text that is a number with a point or an exponent. -/
def floatStart (cs : List Char) : Option (Binary64 × List Char) :=
  (List.range (cs.length + 1)).reverse.findSome? fun n =>
    (Binary64.ofText? (String.ofList (cs.take n))).map fun x => (x, cs.drop n)

/-- The number that the next word stands for. -/
def float (f : Formatted) : Binary64 × Formatted :=
  match f.words with
  | [] => (.ofNat 0, f)
  | word :: _ =>
    let f := f.advance
    match word.toList with
    | '"' :: rest | '\'' :: rest => (.ofNat ((rest.head?.map Char.toNat).getD 0), f)
    | cs =>
      match floatStart (cs.dropWhile Char.isWhitespace) with
      | some (x, rest) => (x, f.check word rest)
      | none => (.ofNat 0, f.check word cs)

/-- What one directive makes of the next word; `shown` is how it is written. -/
def directive (f : Formatted) (d : Directive) (shown : List Char) : Formatted :=
  let word := f.words.headD ""
  let cut (cs : List Char) : List Char :=
    match d.precision with
    | some p => cs.take p
    | none => cs
  match d.letter with
  | 's' => (f.advance).say (d.fill (cut word.toList))
  | 'c' => (f.advance).say (d.fill [(word.toList.head?).getD '\x00'])
  | 'b' =>
    let p := unescape word
    { (f.advance).say (d.fill (cut p.text)) with stopped := p.stopped }
  | 'd' | 'i' =>
    let (n, f) := f.integer true
    f.say (d.integerText n)
  | 'o' | 'u' | 'x' | 'X' =>
    let (n, f) := f.integer false
    f.say (d.integerText n)
  | 'e' | 'E' | 'f' | 'F' | 'g' | 'G' =>
    let (x, f) := f.float
    f.say (d.floatText x)
  | _ =>
    let f := f.complain (String.ofList shown ++ ": invalid directive")
    { f with stopped := true, broken := true }

/-- A number in a format, or the next word for an asterisk; and what follows it. -/
def measure (f : Formatted) (cs : List Char) : Option Int × Formatted × List Char :=
  match cs with
  | '*' :: rest =>
    let (n, f) := f.integer true
    (some n, f, rest)
  | cs =>
    let ds := cs.takeWhile (·.isDigit)
    (if ds.isEmpty then none else some (Arithmetic.numberOf 10 ds), f, cs.drop ds.length)

/-- What a directive behind a percent sign makes of the words, and what follows it. -/
def conversion (f : Formatted) (cs : List Char) : Formatted × List Char :=
  let flags := cs.takeWhile ['#', '-', '+', ' ', '0'].contains
  let (width, f, rest) := f.measure (cs.drop flags.length)
  let (precision, f, rest) : Option Int × Formatted × List Char :=
    match rest with
    | '.' :: rest =>
      let (p, f, rest) := f.measure rest
      (some (p.getD 0), f, rest)
    | rest => (none, f, rest)
  match rest with
  | [] => ({ f.complain "missing format character" with stopped := true, broken := true }, [])
  | letter :: rest =>
    let width := width.getD 0
    let d : Directive :=
      { flags := if width < 0 then '-' :: flags else flags
        width := width.natAbs
        precision := precision.bind fun p => if p < 0 then none else some p.toNat
        letter }
    (f.directive d ('%' :: cs.take (cs.length - rest.length)), rest)

/-- What a format makes of some words. Each round uses a character up, so `fuel` need not exceed
their number. -/
def once : Nat → Formatted → List Char → Formatted
  | 0, f, _ => f
  | _ + 1, f, [] => f
  | fuel + 1, f, c :: rest =>
    if f.stopped then f
    else if c = '\\' then
      let (d, rest) := escape rest
      once fuel (f.say [d]) rest
    else if c = '%' then
      match rest with
      | '%' :: rest => once fuel (f.say ['%']) rest
      | rest =>
        let (f, rest) := f.conversion rest
        once fuel f rest
    else once fuel (f.say [c]) rest

/-- What a format makes of all words: it is used again as long as it uses words up. -/
def all (format : List Char) : Nat → Formatted → Formatted
  | 0, f => f
  | rounds + 1, f =>
    let g := once (format.length + 1) f format
    if g.stopped || g.words.isEmpty || g.words.length = f.words.length then g
    else all format rounds g

/-- What has been written. -/
def text (f : Formatted) : String := String.ofList f.texts.reverse.flatten

end Formatted

/-- What `printf` writes. -/
def formatted (format : String) (words : List String) : Formatted :=
  Formatted.all format.toList (words.length + 1) { words }

end DebugAdapter.Bench.Shell
