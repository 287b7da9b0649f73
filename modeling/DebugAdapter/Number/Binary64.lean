/-!
# Binary64

The 64-bit floating-point numbers as bit patterns, with exact integer arithmetic behind every
operation: a finite number is `significand * 2 ^ exponent`, an operation computes its exact
result as a fraction, and `ofFraction` rounds a fraction to the nearest number, a tie to the even
significand.
-/

namespace DebugAdapter

/-- A floating-point number, as its bit pattern. -/
structure Binary64 where
  bits : UInt64
deriving DecidableEq, Repr, Inhabited

namespace Binary64

/-- The bit that carries the sign. -/
def signBit : Nat := Nat.pow 2 63

/-- The weight of the bit that the pattern of a normal number leaves out of its significand. -/
def hiddenBit : Nat := Nat.pow 2 52

/-- A pattern from a sign and the remaining 63 bits. -/
def ofParts (negative : Bool) (magnitude : Nat) : Binary64 :=
  ⟨UInt64.ofNat (if negative then signBit + magnitude else magnitude)⟩

/-- The pattern without its sign. -/
def magnitude (x : Binary64) : Nat := x.bits.toNat % signBit

/-- Whether the sign is set. -/
def isNegative (x : Binary64) : Bool := signBit ≤ x.bits.toNat

/-- The magnitude of infinity; greater magnitudes are no numbers. -/
def infinityMagnitude : Nat := 2047 * hiddenBit

def isInfinite (x : Binary64) : Bool := x.magnitude == infinityMagnitude

def isNaN (x : Binary64) : Bool := infinityMagnitude < x.magnitude

def isZero (x : Binary64) : Bool := x.magnitude == 0

/-- The same number with the other sign. -/
def negate (x : Binary64) : Binary64 := ofParts (!x.isNegative) x.magnitude

/-- The integer factor of a finite number. -/
def significand (x : Binary64) : Nat :=
  if x.magnitude < hiddenBit then x.magnitude else hiddenBit + x.magnitude % hiddenBit

/-- The power of two of a finite number. -/
def exponent (x : Binary64) : Int :=
  if x.magnitude < hiddenBit then -1074 else (x.magnitude / hiddenBit : Nat) - 1075

/-- `num / den` rounded to an integer, a half to the even one. -/
def roundedQuotient (num den : Nat) : Nat :=
  let q := num / den
  let r := num % den
  if 2 * r < den then q else if den < 2 * r then q + 1 else if q % 2 = 0 then q else q + 1

/-- `num / den / 2 ^ e` as a fraction of integers. -/
def scaledFraction (num den : Nat) (e : Int) : Nat × Nat :=
  if 0 ≤ e then (num, den * Nat.pow 2 e.toNat) else (num * Nat.pow 2 (-e).toNat, den)

/-- The exponent that leaves 53 bits of `num / den` before the point, but at least the least one. -/
def fittingExponent (num den : Nat) : Int :=
  let e : Int := (Nat.log2 num : Int) - Nat.log2 den - 52
  let (n, d) := scaledFraction num den e
  max (-1074) (if n < hiddenBit * d then e - 1 else e)

/-- The number nearest to `num / den`, a tie to the even significand. -/
def ofFraction (negative : Bool) (num den : Nat) : Binary64 :=
  if num = 0 then ofParts negative 0
  else
    let e := fittingExponent num den
    let (n, d) := scaledFraction num den e
    let q := roundedQuotient n d
    let bits := if q < hiddenBit then q else ((e + 1075).toNat * hiddenBit + q) - hiddenBit
    ofParts negative (min bits infinityMagnitude)

/-- The nearest number to a natural number. -/
def ofNat (n : Nat) : Binary64 := ofFraction false n 1

/-- `digits * 10 ^ exponent`, rounded. Exponents far outside the range of the format are not
worked out: they give infinity or zero. -/
def ofDecimal (negative : Bool) (digits : Nat) (exponent : Int) : Binary64 :=
  if digits = 0 then ofParts negative 0
  else
    let size : Int := (Nat.log2 digits : Int) / 3 + exponent
    if 320 < exponent then ofParts negative infinityMagnitude
    else if size < -340 then ofParts negative 0
    else if 0 ≤ exponent then ofFraction negative (digits * Nat.pow 10 exponent.toNat) 1
    else ofFraction negative digits (Nat.pow 10 (-exponent).toNat)

/-- The product of two finite numbers, rounded. -/
def mul (x y : Binary64) : Binary64 :=
  let negative := x.isNegative != y.isNegative
  let (n, d) := scaledFraction (x.significand * y.significand) 1 (-(x.exponent + y.exponent))
  ofFraction negative n d

/-- The quotient of two finite numbers, rounded; the divisor is not zero. -/
def div (x y : Binary64) : Binary64 :=
  let negative := x.isNegative != y.isNegative
  let (n, d) := scaledFraction x.significand y.significand (y.exponent - x.exponent)
  ofFraction negative n d

end Binary64

end DebugAdapter
