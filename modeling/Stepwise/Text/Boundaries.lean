/-!
# Sets of characters given by their boundaries

A set of code points that is a union of intervals is written as the increasing list of the points at
which membership changes: the first point inside, the first point outside again, and so on.
-/

namespace Stepwise.Text

/-- How many boundaries lie at or below a code point, searched in the positions from `low` up to
`high` by halving; `steps` bounds the number of halvings. -/
def countBelow (bounds : Array Nat) (point : Nat) : (steps low high : Nat) → Nat
  | 0, low, _ => low
  | steps + 1, low, high =>
    if low < high then
      let middle := (low + high) / 2
      if bounds.getD middle 0 ≤ point then countBelow bounds point steps (middle + 1) high
      else countBelow bounds point steps low middle
    else low

/-- Whether a character belongs to the set: an odd number of changes lies at or below it. -/
def withinBounds (bounds : Array Nat) (c : Char) : Bool :=
  countBelow bounds c.toNat (bounds.size + 1) 0 bounds.size % 2 == 1

end Stepwise.Text
