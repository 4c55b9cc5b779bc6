import Mathlib.Data.List.DropRight
import SignOnGate.Text.Blank

/-!
# Cutting and stripping text

What stands in front of a mark is free of it, and cutting invents no character. Stripping changes
nothing when it is done twice, and nothing in a text without blanks.
-/

namespace SignOnGate

namespace Text

variable {mark char : Char} {text : Text}

/-! ## Cuts at a mark -/

theorem not_mem_before (mark : Char) (text : Text) : mark ∉ before mark text := by
  intro member
  have different := List.mem_takeWhile_imp member
  simp at different

theorem mem_of_mem_before (member : char ∈ before mark text) : char ∈ text :=
  List.takeWhile_subset _ member

theorem mem_of_mem_after (member : char ∈ after mark text) : char ∈ text :=
  List.dropWhile_subset _ (List.mem_of_mem_drop member)

theorem before_of_not_mem (free : mark ∉ text) : before mark text = text := by
  apply List.takeWhile_eq_self_iff.mpr
  intro char member
  have different : char ≠ mark := by
    rintro rfl
    exact free member
  simpa using different

theorem after_of_not_mem (free : mark ∉ text) : after mark text = [] := by
  have whole : text.dropWhile (· != mark) = [] := by
    apply List.dropWhile_eq_nil_iff.mpr
    intro char member
    have different : char ≠ mark := by
      rintro rfl
      exact free member
    simpa using different
  rw [after, whole, List.drop_nil]

theorem before_append_after (member : mark ∈ text) :
    before mark text ++ mark :: after mark text = text := by
  induction text with
  | nil => cases member
  | cons head tail ih =>
      by_cases same : head = mark
      · simp [before, after, same]
      · have inTail : mark ∈ tail := by simpa [Ne.symm same] using member
        simpa [before, after, same] using ih inTail

theorem cons_after_of_head (isHead : text.head? = some mark) : mark :: after mark text = text := by
  cases text with
  | nil => cases isHead
  | cons head rest =>
      cases isHead
      simp [after]

theorem before_append_of_mem_left (member : mark ∈ text) (rest : Text) :
    before mark (text ++ rest) = before mark text := by
  rw [← before_append_after member, List.append_assoc, List.cons_append,
    before_append_of_mem _ _ _ (not_mem_before mark text),
    before_append_of_mem _ _ _ (not_mem_before mark text)]

theorem after_append_of_mem_left (member : mark ∈ text) (rest : Text) :
    after mark (text ++ rest) = after mark text ++ rest := by
  conv_lhs => rw [← before_append_after member, List.append_assoc, List.cons_append]
  exact after_append_of_mem mark _ _ (not_mem_before mark text)

theorem before_append_of_not_mem (free : mark ∉ text) (rest : Text) :
    before mark (text ++ rest) = text ++ before mark rest := by
  apply List.takeWhile_append_of_pos
  intro char member
  have different : char ≠ mark := by
    rintro rfl
    exact free member
  simpa using different

theorem after_append_of_not_mem (free : mark ∉ text) (rest : Text) :
    after mark (text ++ rest) = after mark rest := by
  rw [after, after, List.dropWhile_append_of_pos]
  intro char member
  have different : char ≠ mark := by
    rintro rfl
    exact free member
  simpa using different

theorem mem_before_append (member : char ∈ before mark text) (rest : Text) :
    char ∈ before mark (text ++ rest) := by
  by_cases marked : mark ∈ text
  · rwa [before_append_of_mem_left marked]
  · rw [before_append_of_not_mem marked]
    exact List.mem_append_left _ (mem_of_mem_before member)

/-- What a cut leaves is empty or begins with the mark. -/
theorem dropWhile_eq_nil_or_cons (mark : Char) (text : Text) :
    text.dropWhile (· != mark) = [] ∨ ∃ rest, text.dropWhile (· != mark) = mark :: rest := by
  induction text with
  | nil => exact Or.inl rfl
  | cons head rest ih =>
      by_cases same : head = mark
      · exact Or.inr ⟨rest, by simp [same]⟩
      · simpa [same] using ih

theorem not_mem_afterLast (mark : Char) (text : Text) : mark ∉ afterLast mark text := by
  rw [afterLast, List.mem_reverse]
  exact not_mem_before mark text.reverse

theorem mem_of_mem_afterLast (member : char ∈ afterLast mark text) : char ∈ text := by
  rw [afterLast, List.mem_reverse] at member
  exact List.mem_reverse.mp (mem_of_mem_before member)

theorem afterLast_of_not_mem (free : mark ∉ text) : afterLast mark text = text := by
  rw [afterLast, before_of_not_mem (by simpa using free), List.reverse_reverse]

theorem afterLast_append_cons (text : Text) {rest : Text} (free : mark ∉ rest) :
    afterLast mark (text ++ mark :: rest) = rest := by
  have reversed : (text ++ mark :: rest).reverse = rest.reverse ++ mark :: text.reverse := by simp
  rw [afterLast, reversed, before_append_of_mem mark _ _ (by simpa using free),
    List.reverse_reverse]

theorem afterLast_append_of_not_mem (text : Text) {rest : Text} (free : mark ∉ rest) :
    afterLast mark (text ++ rest) = afterLast mark text ++ rest := by
  have reversed : (text ++ rest).reverse = rest.reverse ++ text.reverse := List.reverse_append
  rw [afterLast, reversed, before_append_of_not_mem (by simpa using free), List.reverse_append,
    List.reverse_reverse, afterLast]

theorem beforeLast_append_cons (text : Text) {rest : Text} (free : mark ∉ rest) :
    beforeLast mark (text ++ mark :: rest) = text := by
  have reversed : (text ++ mark :: rest).reverse = rest.reverse ++ mark :: text.reverse := by simp
  rw [beforeLast, reversed, after_append_of_mem mark _ _ (by simpa using free),
    List.reverse_reverse]

theorem beforeLast_append_afterLast (member : mark ∈ text) :
    beforeLast mark text ++ mark :: afterLast mark text = text := by
  have parts := before_append_after (List.mem_reverse.mpr member)
  rw [beforeLast, afterLast, ← List.reverse_inj, ← parts]
  simp [parts]

theorem mem_of_mem_beforeLast (member : char ∈ beforeLast mark text) : char ∈ text := by
  rw [beforeLast, List.mem_reverse] at member
  exact List.mem_reverse.mp (mem_of_mem_after member)

theorem beforeLast_of_not_mem (free : mark ∉ text) : beforeLast mark text = [] := by
  rw [beforeLast, after_of_not_mem (by simpa using free), List.reverse_nil]

theorem before_append_dropWhile (mark : Char) (text : Text) :
    before mark text ++ text.dropWhile (· != mark) = text :=
  List.takeWhile_append_dropWhile

/-- What stands behind the text in front of a mark is what the cut leaves. -/
theorem dropWhile_of_append {rest : Text} (whole : before mark text ++ rest = text) :
    text.dropWhile (· != mark) = rest := by
  rw [← List.append_right_inj (before mark text), whole, before_append_dropWhile]

/-! ## Stripping -/

/-- A stripped text has no blanks at its front. -/
theorem stripFront_strip (text : Text) : stripFront (strip text) = strip text := by
  cases shape : strip text with
  | nil => rfl
  | cons head rest =>
      have isPrefix : strip text <+: stripFront text :=
        List.rdropWhile_prefix isBlank (stripFront text)
      obtain ⟨behind, split⟩ := isPrefix
      have stripped : (stripFront text).dropWhile isBlank = stripFront text :=
        List.dropWhile_idempotent isBlank text
      rw [← split, shape] at stripped
      have solid : isBlank head = false := by
        simpa using List.dropWhile_eq_self_iff.mp stripped (by simp)
      simp [stripFront, solid]

@[simp]
theorem strip_strip (text : Text) : strip (strip text) = strip text := by
  calc
    strip (strip text) = stripEnd (stripFront (strip text)) := rfl
    _ = stripEnd (stripEnd (stripFront text)) := by rw [stripFront_strip, strip]
    _ = strip text := List.rdropWhile_idempotent isBlank (stripFront text)

@[simp]
theorem isBlankText_strip (text : Text) : isBlankText (strip text) = isBlankText text := by
  rw [Bool.eq_iff_iff, ← strip_eq_nil_iff, ← strip_eq_nil_iff, strip_strip]

/-- Stripping the end of a text does not reach behind a part of it that does not vanish. -/
theorem stripEnd_append (front : Text) {behind : Text} (kept : stripEnd behind ≠ []) :
    stripEnd (front ++ behind) = front ++ stripEnd behind := by
  have notEmpty : (behind.reverse.dropWhile isBlank).isEmpty = false := by
    simpa [stripEnd] using kept
  simp [stripEnd, List.dropWhile_append, notEmpty]

theorem stripEnd_cons {head : Char} (solid : isBlank head = false) (rest : Text) :
    stripEnd (head :: rest) = head :: stripEnd rest := by
  rw [← List.singleton_append]
  by_cases vanishes : stripEnd rest = []
  · have blank : rest.reverse.dropWhile isBlank = [] := by simpa [stripEnd] using vanishes
    simp [stripEnd, List.dropWhile_append, blank, solid]
  · exact stripEnd_append [head] vanishes

/-- What stands in front of a character that is no blank is not reached from behind it. -/
theorem stripEnd_append_cons (front : Text) {mark : Char} (solid : isBlank mark = false)
    (rest : Text) : stripEnd (front ++ mark :: rest) = front ++ mark :: stripEnd rest := by
  rw [stripEnd_append front (by simp [stripEnd_cons solid]), stripEnd_cons solid]

theorem stripFront_append_cons (front : Text) {mark : Char} (solid : isBlank mark = false)
    (rest : Text) : stripFront (front ++ mark :: rest) = stripFront front ++ mark :: rest := by
  rw [stripFront, stripFront, List.dropWhile_append]
  split
  · rename_i vanishes
    simp [List.isEmpty_iff.mp vanishes, solid]
  · rfl

theorem stripEnd_of_getLast {text : Text} (solid : ∀ char ∈ text.getLast?, isBlank char = false) :
    stripEnd text = text := by
  apply List.rdropWhile_eq_self_iff.mpr
  intro nonempty
  simp [solid _ (List.getLast?_eq_some_getLast nonempty)]

theorem stripEnd_append_rtakeWhile (text : Text) :
    stripEnd text ++ text.rtakeWhile isBlank = text :=
  List.rdropWhile_append_rtakeWhile

theorem sublist_strip (text : Text) : (strip text).Sublist text :=
  (List.rdropWhile_prefix isBlank _).sublist.trans (List.dropWhile_sublist _)

theorem mem_of_mem_stripEnd (member : char ∈ stripEnd text) : char ∈ text :=
  (List.rdropWhile_prefix isBlank text).subset member

/-- A text that ends in a blank loses something at its end. -/
theorem exists_stripEnd_append {last : Char} (isLast : last ∈ text.getLast?)
    (blank : isBlank last = true) : ∃ tail, tail ≠ [] ∧ stripEnd text ++ tail = text := by
  rcases List.rdropWhile_prefix isBlank text with ⟨tail, whole⟩
  refine ⟨tail, ?_, whole⟩
  rintro rfl
  rw [List.append_nil] at whole
  rcases List.mem_getLast?_eq_getLast isLast with ⟨nonempty, rfl⟩
  exact List.rdropWhile_eq_self_iff.mp whole nonempty blank

theorem solid_of_all (all : text.all (!isBlank ·) = true) :
    ∀ char ∈ text, isBlank char = false := by
  simpa using all

theorem stripFront_of_solid (solid : ∀ char ∈ text, isBlank char = false) :
    stripFront text = text := by
  apply List.dropWhile_eq_self_iff.mpr
  intro bound
  simp [solid _ (List.getElem_mem bound)]

theorem strip_of_solid (solid : ∀ char ∈ text, isBlank char = false) : strip text = text := by
  rw [strip, stripFront_of_solid solid]
  apply List.rdropWhile_eq_self_iff.mpr
  intro nonempty
  simp [solid _ (List.getLast_mem nonempty)]

end Text

end SignOnGate
