import SignOnGate.Text.CapitalTable
import SignOnGate.Text.Lower

/-!
# Letters with a second case

The way from a small letter to its capital, and the letters that have two cases at all.
-/

namespace SignOnGate

namespace Text

/-- The code point that the capital form of a code point begins with. -/
def capitalHead (code : Nat) : Nat :=
  match capitalRuns.find? (·.holds code) with
  | some run => ((code : Int) + run.offset).toNat
  | none => code

/-- Whether a code point has a small or a capital form that is another one. -/
def hasCase (code : Nat) : Bool :=
  simpleLower code != code || capitalHead code != code

/-- Whether some code point of a range has a small or a capital form that is another one. -/
def hasCaseWithin (low high : Nat) : Bool :=
  (low ≤ 0x130 && 0x130 ≤ high) ||
    caseRuns.any (·.meets low high) || capitalRuns.any (·.meets low high)

end Text

end SignOnGate
