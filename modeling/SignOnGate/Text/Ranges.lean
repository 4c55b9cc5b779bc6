/-!
# Ranges of code points

Character classes are kept as lists of inclusive ranges. Membership is one pass over the list, so a
class is as easy to search in a proof as it is when the program runs.
-/

namespace SignOnGate

namespace Text

/-- Whether a code point lies in one of the inclusive ranges. -/
def inRanges (ranges : List (Nat × Nat)) (code : Nat) : Bool :=
  ranges.any fun range => range.1 ≤ code && code ≤ range.2

theorem inRanges_eq_true_iff (ranges : List (Nat × Nat)) (code : Nat) :
    inRanges ranges code = true ↔ ∃ range ∈ ranges, range.1 ≤ code ∧ code ≤ range.2 := by
  simp [inRanges]

end Text

end SignOnGate
