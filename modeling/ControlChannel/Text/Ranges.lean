import ControlChannel.Text.Basic

/-!
# Sets of code points by their bounds

A property of characters is a set of numbers that switches on and off along the number line.
`Ranges` keeps the ascending places where it switches; a number is in the set exactly when an
**odd** count of bounds lies at or below it.
-/

namespace ControlChannel

/-- A set of numbers given by the ascending bounds at which membership changes, beginning
outside the set. -/
structure Ranges where
  bounds : Array Nat

namespace Ranges

/-- How many of the bounds from `low` to before `high` lie at or below `n`, plus `low`, found
by halving; `steps` halvings suffice when `high - low < 2 ^ steps`. -/
def countFrom (bounds : Array Nat) (n : Nat) : Nat → Nat → Nat → Nat
  | 0, low, _ => low
  | steps + 1, low, high =>
    if low < high then
      let middle := (low + high) / 2
      if bounds.getD middle 0 ≤ n then countFrom bounds n steps (middle + 1) high
      else countFrom bounds n steps low middle
    else low

/-- How many bounds lie at or below `n`. -/
def count (r : Ranges) (n : Nat) : Nat :=
  countFrom r.bounds n (r.bounds.size.log2 + 1) 0 r.bounds.size

/-- Whether the set holds this code point. -/
def holds (r : Ranges) (c : CodePoint) : Bool := r.count c.val % 2 = 1

end Ranges

end ControlChannel
