/-! # Character ranges

A class of characters is a list of inclusive ranges of code points. -/

namespace PrintSettings.Text

/-- Whether a character lies in one of the ranges. -/
def inRanges (ranges : List (Nat × Nat)) (c : Char) : Bool :=
  ranges.any fun (first, last) => decide (first ≤ c.toNat) && decide (c.toNat ≤ last)

end PrintSettings.Text
