/-!
# Text

Text is a list of Unicode scalar values. Every rule of the gate reads text from the front, so the
list view is the one that the definitions recurse on and the proofs induct on. This file gives the
cuts at a mark, the ASCII classes, and the search for one text inside another.
-/

namespace SignOnGate

/-- A sequence of Unicode scalar values. -/
abbrev Text := List Char

namespace Text

/-! ## Cuts at a mark -/

/-- The text in front of the first mark, or the whole text when the mark does not occur. -/
def before (mark : Char) (text : Text) : Text :=
  text.takeWhile (· != mark)

/-- The text behind the first mark, or nothing when the mark does not occur. -/
def after (mark : Char) (text : Text) : Text :=
  (text.dropWhile (· != mark)).drop 1

/-- The text in front of the last mark, or nothing when the mark does not occur. -/
def beforeLast (mark : Char) (text : Text) : Text :=
  (after mark text.reverse).reverse

/-- The text behind the last mark, or the whole text when the mark does not occur. -/
def afterLast (mark : Char) (text : Text) : Text :=
  (before mark text.reverse).reverse

/-- All pieces between the marks; a text without a mark is one piece. -/
def pieces (mark : Char) : Text → List Text
  | [] => [[]]
  | head :: rest =>
    if head = mark then
      [] :: pieces mark rest
    else
      match pieces mark rest with
      | [] => [[head]]
      | first :: others => (head :: first) :: others

/-- Pieces joined by a separating text. -/
def joined (separator : Text) : List Text → Text
  | [] => []
  | [piece] => piece
  | piece :: others => piece ++ separator ++ joined separator others

/-- Whether the first text occurs somewhere in the second. -/
def occursIn (part : Text) : Text → Bool
  | [] => part.isEmpty
  | head :: rest => part.isPrefixOf (head :: rest) || occursIn part rest

@[simp]
theorem pieces_ne_nil (mark : Char) (text : Text) : pieces mark text ≠ [] := by
  cases text with
  | nil => simp [pieces]
  | cons head rest =>
    unfold pieces
    split
    · simp
    · split <;> simp

theorem before_append_of_mem (mark : Char) (text rest : Text) (free : mark ∉ text) :
    before mark (text ++ mark :: rest) = text := by
  induction text with
  | nil => simp [before]
  | cons head tail ih =>
    have unequal : head ≠ mark := fun same => free (by simp [same])
    have tailFree : mark ∉ tail := fun member => free (by simp [member])
    simpa [before, unequal] using ih tailFree

theorem after_append_of_mem (mark : Char) (text rest : Text) (free : mark ∉ text) :
    after mark (text ++ mark :: rest) = rest := by
  induction text with
  | nil => simp [after]
  | cons head tail ih =>
    have unequal : head ≠ mark := fun same => free (by simp [same])
    have tailFree : mark ∉ tail := fun member => free (by simp [member])
    simpa [after, unequal] using ih tailFree

/-! ## ASCII classes -/

/-- An ASCII character. -/
def isAscii (char : Char) : Bool :=
  char.toNat < 0x80

/-- The value of a hexadecimal digit of either case. -/
def hexValue? (char : Char) : Option Nat :=
  if '0' ≤ char ∧ char ≤ '9' then some (char.toNat - '0'.toNat)
  else if 'a' ≤ char ∧ char ≤ 'f' then some (char.toNat - 'a'.toNat + 10)
  else if 'A' ≤ char ∧ char ≤ 'F' then some (char.toNat - 'A'.toNat + 10)
  else none

/-- Whether a character is a hexadecimal digit of either case. -/
def isHexDigit (char : Char) : Bool :=
  (hexValue? char).isSome

/-- Whether a character is a digit from zero to seven. -/
def isOctalDigit (char : Char) : Bool :=
  '0' ≤ char && char ≤ '7'

/-- The number that ASCII digits write in a base; a digit outside the base counts as zero. -/
def digitsValue (base : Nat) (digits : Text) : Nat :=
  digits.foldl (fun value digit => value * base + (hexValue? digit).getD 0) 0

/-- A natural number in decimal digits. -/
def ofNat (number : Nat) : Text :=
  Nat.toDigits 10 number

/-- An integer in decimal digits, with a minus sign when it is negative. -/
def ofInt : Int → Text
  | .ofNat number => ofNat number
  | .negSucc number => '-' :: ofNat (number + 1)

/-- A digit of base sixteen, in small letters. -/
def hexDigit (value : Nat) : Char :=
  Nat.digitChar value

/-- A number in exactly `width` digits of base sixteen, in small letters. -/
def ofHex (width number : Nat) : Text :=
  match width with
  | 0 => []
  | width + 1 => ofHex width (number / 16) ++ [hexDigit (number % 16)]

/-- ASCII letters made small; every other character is kept. -/
def lowerAscii (text : Text) : Text :=
  text.map Char.toLower

end Text

end SignOnGate
