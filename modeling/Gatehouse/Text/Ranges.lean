/-!
# Sets of characters

A set of characters as ranges of code points, with a membership test. The classes of this
library are tables in this form.
-/

namespace Gatehouse.Text

/-- Whether a code point lies in one of the ranges, ends included. -/
def inRanges (table : List (Nat × Nat)) (n : Nat) : Bool :=
  table.any fun (first, last) => first ≤ n && n ≤ last

/-- Whether a code point lies in one of the ranges, at a whole number of steps from the
first of the range. -/
def inSteps (table : List (Nat × Nat × Nat)) (n : Nat) : Bool :=
  table.any fun (first, last, step) => first ≤ n && n ≤ last && (n - first) % step == 0

end Gatehouse.Text
