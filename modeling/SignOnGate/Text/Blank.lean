import SignOnGate.Text.Basic

/-!
# Blank characters

A blank is a character with the Unicode property `White_Space`, or one of the four information
separators U+001C to U+001F. Stripping removes blanks from both ends and keeps those in between.
-/

namespace SignOnGate

namespace Text

/-- Unicode white space and the information separators. -/
def isBlank (char : Char) : Bool :=
  let code := char.toNat
  (0x09 ≤ code && code ≤ 0x0D) || (0x1C ≤ code && code ≤ 0x20) || code == 0x85 || code == 0xA0 ||
    code == 0x1680 || (0x2000 ≤ code && code ≤ 0x200A) || code == 0x2028 || code == 0x2029 ||
    code == 0x202F || code == 0x205F || code == 0x3000

/-- The text without the blanks at its front. -/
def stripFront (text : Text) : Text :=
  text.dropWhile isBlank

/-- The text without the blanks at its end. -/
def stripEnd (text : Text) : Text :=
  (text.reverse.dropWhile isBlank).reverse

/-- The text without the blanks at either end. -/
def strip (text : Text) : Text :=
  stripEnd (stripFront text)

/-- Whether a text holds nothing but blanks. -/
def isBlankText (text : Text) : Bool :=
  text.all isBlank

theorem dropWhile_isBlank_eq_nil_iff (text : Text) :
    text.dropWhile isBlank = [] ↔ isBlankText text = true := by
  induction text with
  | nil => simp [isBlankText]
  | cons head rest ih =>
    rw [isBlankText] at ih ⊢
    cases blank : isBlank head with
    | true => simp [blank, ih]
    | false => simp [blank]

/-- Nothing is left of a text by stripping exactly if the text is blank. -/
theorem strip_eq_nil_iff (text : Text) : strip text = [] ↔ isBlankText text = true := by
  have reversed (part : Text) : stripEnd part = [] ↔ isBlankText part = true := by
    rw [stripEnd, List.reverse_eq_nil_iff, dropWhile_isBlank_eq_nil_iff]
    simp [isBlankText]
  rw [strip, reversed]
  induction text with
  | nil => simp [stripFront]
  | cons head rest ih =>
    cases blank : isBlank head with
    | true => simpa [stripFront, isBlankText, blank] using ih
    | false => simp [stripFront, isBlankText, blank]

end Text

end SignOnGate
