/-! # Sets of characters

A property of characters is a list of inclusive ranges of code points, in increasing order.
-/

namespace ProseCheck.Text

/-- Inclusive ranges of code points. -/
abbrev CodeRanges := List (Nat × Nat)

def CodeRanges.contains (ranges : CodeRanges) (c : Char) : Bool :=
  ranges.any fun (lo, hi) => lo ≤ c.toNat && c.toNat ≤ hi

end ProseCheck.Text
