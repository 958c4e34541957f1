/-!
# Classes of characters given by ranges of code points

* `Text.CodeRange`: the code points from `first` to `last`, both included.
* `Text.inRanges`: membership of a character in a list of ranges.
-/

namespace KernelArchive.Text
set_option autoImplicit false

/-- The code points from `first` to `last`, both included. -/
structure CodeRange where
  first : Nat
  last : Nat
deriving DecidableEq

/-- Does the range hold this code point? -/
def CodeRange.holds (r : CodeRange) (n : Nat) : Bool := r.first ≤ n && n ≤ r.last

/-- Does one of the ranges hold the character? -/
def inRanges (ranges : List CodeRange) (c : Char) : Bool := ranges.any (·.holds c.toNat)

end KernelArchive.Text
