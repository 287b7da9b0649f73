import DebugAdapter.Json.Basic
import DebugAdapter.Text.Utf8
/-!
# Numerals

The value of a JSON numeral from its digits. An integer that fits into 64 bits stays one. Anything
else becomes a floating-point number in two roundings: as many leading digits as fit into 64 bits
give a first number, which is then scaled by a power of ten.
-/

namespace DebugAdapter

/-- The parts of a JSON numeral. The digits are octets from `'0'` to `'9'`. -/
structure Numeral where
  negative : Bool
  whole : Bytes
  /-- The digits behind the point, if there is a point. -/
  fraction : Option Bytes
  /-- The sign and the digits of the exponent, if there is one. -/
  exponent : Option (Bool × Bytes)
deriving Repr, DecidableEq

namespace Numeral

/-- The greatest significand that is kept exactly. -/
def maxSignificand : Nat := 18446744073709551615

/-- The greatest power of ten by which a number is scaled at once. -/
def maxPower : Nat := 308

/-- The value of a digit. -/
def digit (b : UInt8) : Nat := b.toNat - 48

/-- The value of some digits. -/
def natOf (ds : Bytes) : Nat := ds.foldl (fun n d => n * 10 + digit d) 0

/-- Digits appended to `significand` while it stays within 64 bits; behind it how many were. -/
def take (significand : Nat) : Bytes → Nat × Nat
  | [] => (significand, 0)
  | d :: rest =>
    let next := significand * 10 + digit d
    if next ≤ maxSignificand then
      let (s, n) := take next rest
      (s, n + 1)
    else (significand, 0)

/-- A number scaled by a power of ten, in steps of at most `10 ^ 308`; nothing beyond the range. -/
def scale : Nat → Binary64 → Int → Option Binary64
  | 0, x, _ => some x
  | steps + 1, x, e =>
    if e.natAbs ≤ maxPower then
      let power := Binary64.ofNat (Nat.pow 10 e.natAbs)
      if 0 ≤ e then
        let y := x.mul power
        if y.isInfinite then none else some y
      else some (x.div power)
    else if x.isZero then some x
    else if 0 ≤ e then none
    else scale steps (x.div (Binary64.ofNat (Nat.pow 10 maxPower))) (e + maxPower)

/-- The floating-point number `significand * 10 ^ e`; a number within 64 bits is zero after three
steps, so four suffice. -/
def float? (negative : Bool) (significand : Nat) (e : Int) : Option Number :=
  (scale 4 (Binary64.ofNat significand) e).map fun x =>
    .float (if negative then x.negate else x)

/-- The greatest exponent that is told apart from greater ones. -/
def maxExponent : Nat := 2147483647

/-- The number of a numeral; nothing if it is too large for a floating-point number. -/
def value? (n : Numeral) : Option Number :=
  let (s, taken) := take 0 n.whole
  let dropped := n.whole.length - taken
  match n.fraction, n.exponent with
  | none, none =>
    if 0 < dropped then float? n.negative s dropped
    else if !n.negative then some (.int s)
    else if s = 0 ∨ 9223372036854775808 < s then
      some (.float (Binary64.ofNat s).negate)
    else some (.int (-s))
  | fraction, exponent =>
    let (s, places) := take s (fraction.getD [])
    let e : Int := (dropped : Int) - places
    match exponent with
    | none => float? n.negative s e
    | some (down, ds) =>
      let size := natOf ds
      if maxExponent < size then
        if s ≠ 0 ∧ !down then none
        else some (.float (Binary64.ofParts n.negative 0))
      else float? n.negative s (if down then e - size else e + size)

end Numeral

end DebugAdapter
