import DebugAdapter.Text.Integer
/-!
# Handles

Numbers that are handed out for things the editor refers back to. They start at 1000, so that none
is taken for the 0 that means nothing.
-/

namespace DebugAdapter.Session

/-- The first number. -/
def firstHandle : Nat := 1000

/-- Things under the numbers that were handed out for them; the thing with number `firstHandle + i`
is the one at place `i`. -/
structure Handles (α : Type) where
  items : List α := []
deriving Repr, Inhabited

namespace Handles

variable {α : Type}

/-- The number that is handed out next. -/
def next (h : Handles α) : Nat := firstHandle + h.items.length

/-- A number for one more thing. -/
def create (h : Handles α) (x : α) : Nat × Handles α := (h.next, { items := h.items ++ [x] })

/-- The place of a number, if it has one. -/
def place? (handle : Int) : Option Nat :=
  if (firstHandle : Int) ≤ handle then some (handle - firstHandle).toNat else none

/-- The thing under a number. -/
def get? (h : Handles α) (handle : Int) : Option α := (place? handle).bind (h.items[·]?)

/-- With another thing under a number that was handed out. -/
def set (h : Handles α) (handle : Int) (x : α) : Handles α :=
  match place? handle with
  | some i => { items := h.items.set i x }
  | none => h

/-- Every number is forgotten, and numbering starts anew. -/
def reset (_ : Handles α) : Handles α := {}

end Handles

end DebugAdapter.Session
