/-!
# Ranges of codes

Sets of characters as rows of closed ranges of codes.

* `inRanges`: whether a code lies in one of them.
-/

namespace Admission.Text

/-- Whether a code lies in one of a row of closed ranges. -/
def inRanges (ranges : List (Nat × Nat)) (code : Nat) : Bool :=
  ranges.any fun (lo, hi) => lo ≤ code && code ≤ hi

end Admission.Text
