import SignOnGate.Text.Basic

/-!
# Marks

While a pattern is matched, the places where its groups were opened and closed are marked. The marks
up to the last one that was ever set are kept in a list; group `n` has the entries `2 n - 2` and
`2 n - 1`.

A failed attempt does not leave all marks as they were. Those that it was the first to set are
withdrawn; those that it moved are put back only when it was made inside a repetition.
-/

namespace SignOnGate

namespace Pattern

/-- The marks set so far, those between them included. -/
abbrev Marks := List (Option Nat)

namespace Marks

/-- The marks with one of them set; marks that are passed over stay unset. -/
def put (marks : Marks) (index position : Nat) : Marks :=
  if index < marks.length then marks.set index (some position)
  else marks ++ List.replicate (index - marks.length) none ++ [some position]

/-- The marks at the opening of a group. -/
def openGroup (marks : Marks) (group position : Nat) : Marks :=
  marks.put (2 * group - 2) position

/-- The marks at the closing of a group. -/
def closeGroup (marks : Marks) (group position : Nat) : Marks :=
  marks.put (2 * group - 1) position

/-- The start and the end of a group that has both. -/
def span? (marks : Marks) (group : Nat) : Option (Nat × Nat) :=
  match marks[2 * group - 2]?.join, marks[2 * group - 1]?.join with
  | some start, some finish => some (start, finish)
  | _, _ => none

/-- The part of the text that a group has captured; none if it was opened again behind its end. -/
def captured? (marks : Marks) (group : Nat) : Option (Nat × Nat) :=
  (marks.span? group).filter fun span => span.1 ≤ span.2

/-- Whether some group was opened again behind its end. -/
def isCrossed (marks : Marks) : Bool :=
  (List.range (marks.length / 2)).any fun index =>
    (marks.span? (index + 1)).any fun span => span.2 < span.1

/-- The marks that are left of those after a failed attempt, given those in front of it. -/
def afterFailure (repeating : Bool) (earlier later : Marks) : Marks :=
  if repeating then earlier else later.take earlier.length

@[simp]
theorem afterFailure_repeating (earlier later : Marks) :
    afterFailure true earlier later = earlier := rfl

@[simp]
theorem afterFailure_self (repeating : Bool) (marks : Marks) :
    afterFailure repeating marks marks = marks := by
  cases repeating <;> simp [afterFailure]

end Marks

end Pattern

end SignOnGate
