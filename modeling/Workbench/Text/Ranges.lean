set_option autoImplicit false

/-!
# Ranges of code points

Large sets of characters are written down as ranges of their code points.

## Main definitions

* `Workbench.Text.inRanges` — membership of a code point.
-/

namespace Workbench.Text

/-- Whether a code point lies in one of some ranges, each given by its first and last member. -/
def inRanges (ranges : List (Nat × Nat)) (n : Nat) : Bool :=
  ranges.any fun (first, last) => first ≤ n && n ≤ last

end Workbench.Text
