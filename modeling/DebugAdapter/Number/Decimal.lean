import DebugAdapter.Number.Binary64
/-!
# Decimals

The shortest decimal that reads back as a given floating-point number, and the two ways of
writing it: positional throughout, or with an exponent for very large and very small numbers.
-/

namespace DebugAdapter

/-- The number `digits * 10 ^ exponent`. -/
structure Decimal where
  digits : Nat
  exponent : Int
deriving DecidableEq, Repr

namespace Decimal

/-- `10 ^ p ≤ num / den`, without fractions. -/
def atLeastPower (num den : Nat) (p : Int) : Bool :=
  if 0 ≤ p then den * Nat.pow 10 p.toNat ≤ num else den ≤ num * Nat.pow 10 (-p).toNat

/-- The `p` with `10 ^ p ≤ num / den < 10 ^ (p + 1)`; the estimate from the binary length is at most
one off. -/
def leadingPower (num den : Nat) : Int :=
  let estimate := Int.fdiv (((Nat.log2 num : Int) - Nat.log2 den) * 30103) 100000
  if atLeastPower num den (estimate + 1) then estimate + 1
  else if atLeastPower num den estimate then estimate
  else estimate - 1

/-- The fractions that round to one floating-point number: from `low / den` to `high / den` around
`mid / den`, ends included or not. -/
structure Neighbourhood where
  low : Nat
  mid : Nat
  high : Nat
  den : Nat
  closed : Bool
deriving Repr

/-- The fractions that round to `x`: half a step to each side, a quarter below a power of two, and
the ends belong to it when its significand is even. -/
def neighbourhood (x : Binary64) : Neighbourhood :=
  let m := x.significand
  let below := if m = Binary64.hiddenBit ∧ -1074 < x.exponent then 1 else 2
  let e := x.exponent - 2
  let scale := if 0 ≤ e then Nat.pow 2 e.toNat else 1
  let den := if 0 ≤ e then 1 else Nat.pow 2 (-e).toNat
  { low := (4 * m - below) * scale, mid := 4 * m * scale, high := (4 * m + 2) * scale,
    den, closed := m % 2 = 0 }

/-- `digits * 10 ^ p` over the neighbourhood's denominator, as numerator and factor of it. -/
def onGrid (digits : Nat) (p : Int) : Nat × Nat :=
  if 0 ≤ p then (digits * Nat.pow 10 p.toNat, 1) else (digits, Nat.pow 10 (-p).toNat)

/-- Whether `digits * 10 ^ p` lies in the neighbourhood. -/
def Neighbourhood.holds (nb : Neighbourhood) (digits : Nat) (p : Int) : Bool :=
  let (n, d) := onGrid digits p
  let value := n * nb.den
  if nb.closed then nb.low * d ≤ value && value ≤ nb.high * d
  else nb.low * d < value && value < nb.high * d

/-- Where a decimal goes that is as near to one grid point as to the next. -/
inductive Tie where
  | toEven
  | away
deriving DecidableEq, Repr

/-- The digits on the grid of `10 ^ p` that are nearest to the middle among those in the
neighbourhood; only the two next to the middle can be. -/
def Neighbourhood.nearest? (tie : Tie) (nb : Neighbourhood) (p : Int) : Option Nat :=
  let (n, d) :=
    if 0 ≤ p then (nb.mid, nb.den * Nat.pow 10 p.toNat)
    else (nb.mid * Nat.pow 10 (-p).toNat, nb.den)
  let below := n / d
  let twice := 2 * (n % d)
  let roundUp := d < twice || (d == twice && (tie == .away || below % 2 == 1))
  match nb.holds below p, nb.holds (below + 1) p with
  | true, true => some (if roundUp then below + 1 else below)
  | true, false => some below
  | false, true => some (below + 1)
  | false, false => none

/-- The coarsest grid from `p` down that has a point in the neighbourhood. -/
def Neighbourhood.shortest (tie : Tie) (nb : Neighbourhood) : Nat → Int → Decimal
  | 0, p => ⟨(nb.nearest? tie p).getD 0, p⟩
  | finer + 1, p =>
    match nb.nearest? tie p with
    | some digits => ⟨digits, p⟩
    | none => nb.shortest tie finer (p - 1)

/-- The same number without zeros at the end of its digits. -/
def stripZeros : Nat → Decimal → Decimal
  | 0, x => x
  | fuel + 1, x =>
    if x.digits ≠ 0 ∧ x.digits % 10 = 0 then stripZeros fuel ⟨x.digits / 10, x.exponent + 1⟩ else x

/-- The shortest decimal that rounds to the magnitude of a finite number other than zero; of several
the nearest, and of two equally near ones the one that `tie` says. -/
def ofBinary64 (tie : Tie) (x : Binary64) : Decimal :=
  let nb := neighbourhood x
  stripZeros 20 (nb.shortest tie 17 (leadingPower nb.mid nb.den))

/-- The digits as characters. -/
def digitChars (x : Decimal) : List Char := Nat.toDigits 10 x.digits

/-- The exponent in scientific notation: the power of ten of the first digit. -/
def leadingExponent (x : Decimal) : Int := x.exponent + x.digitChars.length - 1

/-- All digits in their places, with `whole` behind a number that needs no point. -/
def positional (whole : List Char) (x : Decimal) : List Char :=
  let ds := x.digitChars
  if 0 ≤ x.exponent then ds ++ List.replicate x.exponent.toNat '0' ++ whole
  else
    let places := (-x.exponent).toNat
    if places < ds.length then
      ds.take (ds.length - places) ++ '.' :: ds.drop (ds.length - places)
    else '0' :: '.' :: (List.replicate (places - ds.length) '0' ++ ds)

/-- One digit before the point and an exponent with its sign. -/
def scientific (x : Decimal) : List Char :=
  let e := x.leadingExponent
  let mantissa :=
    match x.digitChars with
    | d :: (f :: fs) => d :: '.' :: f :: fs
    | ds => ds
  mantissa ++ 'e' :: (if e < 0 then '-' else '+') :: Nat.toDigits 10 e.natAbs

end Decimal

namespace Binary64

def signed (x : Binary64) (text : List Char) : List Char :=
  if x.isNegative then '-' :: text else text

/-- The shortest text with every digit in its place: `0.1`, `100`, `-0`, `inf`, `NaN`. A tie goes
away from zero. -/
def plainText (x : Binary64) : String :=
  String.ofList <|
    if x.isNaN then ['N', 'a', 'N']
    else signed x <|
      if x.isInfinite then ['i', 'n', 'f']
      else if x.isZero then ['0']
      else (Decimal.ofBinary64 .away x).positional []

/-- The text of a finite number in a data format: the point is always shown, an exponent is used
outside `10 ^ -5` to `10 ^ 16`, and a tie goes to the even digit. -/
def dataText (x : Binary64) : String :=
  String.ofList <| signed x <|
    if x.isZero then ['0', '.', '0']
    else
      let d := Decimal.ofBinary64 .toEven x
      if -5 ≤ d.leadingExponent ∧ d.leadingExponent ≤ 15 then d.positional ['.', '0']
      else d.scientific

/-- Some digits, if there are any. -/
def digitsOf (cs : List Char) : List Char × List Char :=
  (cs.takeWhile (·.isDigit), cs.dropWhile (·.isDigit))

/-- The digits behind a point, if there is one. -/
def fractionOf : List Char → List Char × List Char
  | '.' :: rest => digitsOf rest
  | rest => ([], rest)

def natOf (digits : List Char) : Nat :=
  digits.foldl (fun n c => n * 10 + (c.toNat - '0'.toNat)) 0

/-- The exponent behind a mantissa, if nothing else follows. -/
def exponentOf? : List Char → Option Int
  | [] => some 0
  | c :: rest =>
    if c = 'e' ∨ c = 'E' then
      let (negative, digits) :=
        match rest with
        | '+' :: r => (false, r)
        | '-' :: r => (true, r)
        | r => (false, r)
      if digits.isEmpty || !digits.all (·.isDigit) then none
      else some (if negative then -(natOf digits : Int) else natOf digits)
    else none

/-- The number that an unsigned text denotes. -/
def ofUnsignedText? (negative : Bool) (cs : List Char) : Option Binary64 :=
  let word := String.ofList (cs.map Char.toLower)
  if word = "inf" ∨ word = "infinity" then some (ofParts negative infinityMagnitude)
  else if word = "nan" then some (ofParts negative (infinityMagnitude + hiddenBit / 2))
  else
    let (whole, rest) := digitsOf cs
    let (fraction, rest) := fractionOf rest
    if whole.isEmpty && fraction.isEmpty then none
    else (exponentOf? rest).map fun e =>
      ofDecimal negative (natOf (whole ++ fraction)) (e - fraction.length)

/-- The number that a text denotes: a sign, digits with or without a point, an exponent; or the
words for infinity and for no number, in any case. -/
def ofText? (s : String) : Option Binary64 :=
  match s.toList with
  | '-' :: rest => ofUnsignedText? true rest
  | '+' :: rest => ofUnsignedText? false rest
  | cs => ofUnsignedText? false cs

end Binary64

end DebugAdapter
