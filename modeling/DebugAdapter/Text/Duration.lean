/-!
# Durations

Durations are counted in milliseconds; a message shows them in the largest unit that fits.
-/

namespace DebugAdapter

/-- A point in time, or a span of it, in milliseconds. -/
abbrev Millis := Nat

namespace Text

/-- The three digits behind the point, without zeros at the end. -/
def thousandths (n : Nat) : List Char :=
  let digits := [n / 100, n / 10 % 10, n % 10].map fun d => Char.ofNat ('0'.toNat + d)
  (digits.reverse.dropWhile (· = '0')).reverse

/-- A duration: `0ns`, `5ms`, `60s`, `1.5s`. -/
def durationText (d : Millis) : String :=
  if d = 0 then "0ns"
  else if d < 1000 then toString d ++ "ms"
  else
    let part := thousandths (d % 1000)
    toString (d / 1000) ++ (if part.isEmpty then "" else "." ++ String.ofList part) ++ "s"

end Text

end DebugAdapter
