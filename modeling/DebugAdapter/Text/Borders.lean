/-!
# Classes of characters by their borders

A class of code points is listed by the code points at which membership changes, in ascending
order.
-/

namespace DebugAdapter.Text

/-- Whether the code point `n` stands behind an even number of the borders. -/
def evenBorders (n : Nat) : List Nat → Bool
  | [] => true
  | b :: rest => if n < b then true else !evenBorders n rest

end DebugAdapter.Text
