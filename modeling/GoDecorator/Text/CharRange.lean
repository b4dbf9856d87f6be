/-!
# Ranges of characters

A property of characters is kept as a table of ranges of code points, in increasing order. A range
may take every second code point only: in many scripts capital and small letters alternate, and a
step of two turns such a stretch into one entry.
-/

namespace GoDecorator.Text

/-- The code points `first`, `first + step`, `first + 2 * step`, and so on up to `last`. -/
structure CharRange where
  /-- The least member. -/
  first : Nat
  /-- The greatest member. -/
  last : Nat
  /-- The distance between neighbouring members. -/
  step : Nat
deriving DecidableEq, Repr

/-- Whether a code point belongs to the range. -/
def CharRange.contains (r : CharRange) (n : Nat) : Bool :=
  decide (r.first ≤ n) && decide (n ≤ r.last) && (n - r.first) % r.step == 0

/-- Whether a code point belongs to a range of the table. The table is in increasing order, so the
search ends at the first range that starts above the code point. -/
def inTable : List CharRange → Nat → Bool
  | [], _ => false
  | r :: rs, n => if n < r.first then false else r.contains n || inTable rs n

@[simp] theorem inTable_nil (n : Nat) : inTable [] n = false := rfl

end GoDecorator.Text
