import Mathlib.Tactic.Common
import SignOnGate.Text.Basic

/-!
# UTF-16

A text as units of sixteen bits. A character above U+FFFF takes a pair of surrogates, units that no
other character takes; a reader that has met the first one of a pair waits for the second one. A
surrogate that stands alone is no text.
-/

namespace SignOnGate

namespace Utf16

/-- The units of a character. -/
def encodeChar (char : Char) : List Nat :=
  let code := char.toNat
  if code < 0x10000 then [code]
  else [0xD800 + (code - 0x10000) / 0x400, 0xDC00 + (code - 0x10000) % 0x400]

/-- The text of a run of units, read between characters or behind the first surrogate of a pair. -/
def decodeFrom : Option Nat → List Nat → Option Text
  | none, [] => some []
  | some _, [] => none
  | none, unit :: rest =>
    if 0xD800 ≤ unit ∧ unit ≤ 0xDBFF then decodeFrom (some unit) rest
    else if 0xDC00 ≤ unit ∧ unit ≤ 0xDFFF then none
    else (decodeFrom none rest).map (Char.ofNat unit :: ·)
  | some high, unit :: rest =>
    if 0xDC00 ≤ unit ∧ unit ≤ 0xDFFF then
      (decodeFrom none rest).map
        (Char.ofNat (0x10000 + (high - 0xD800) * 0x400 + (unit - 0xDC00)) :: ·)
    else none

/-- The text of a run of units; none if they are no text. -/
def decode (units : List Nat) : Option Text :=
  decodeFrom none units

theorem decode_unit {unit : Nat} (noSurrogate : unit < 0xD800 ∨ 0xDFFF < unit) (rest : List Nat) :
    decode (unit :: rest) = (decode rest).map (Char.ofNat unit :: ·) := by
  have notHigh : ¬(0xD800 ≤ unit ∧ unit ≤ 0xDBFF) := by omega
  have notLow : ¬(0xDC00 ≤ unit ∧ unit ≤ 0xDFFF) := by omega
  rw [decode, decodeFrom, if_neg notHigh, if_neg notLow, decode]

theorem decode_pair {high low : Nat} (highBound : high < 0x400) (lowBound : low < 0x400)
    (rest : List Nat) :
    decode ((0xD800 + high) :: (0xDC00 + low) :: rest) =
      (decode rest).map (Char.ofNat (0x10000 + high * 0x400 + low) :: ·) := by
  have isHigh : 0xD800 ≤ 0xD800 + high ∧ 0xD800 + high ≤ 0xDBFF := by omega
  have isLow : 0xDC00 ≤ 0xDC00 + low ∧ 0xDC00 + low ≤ 0xDFFF := by omega
  rw [decode, decodeFrom, if_pos isHigh, decodeFrom, if_pos isLow, Nat.add_sub_cancel_left,
    Nat.add_sub_cancel_left, decode]

/-- The units of a character are read as the character, whatever stands behind them. -/
theorem decode_encodeChar_append (char : Char) (rest : List Nat) :
    decode (encodeChar char ++ rest) = (decode rest).map (char :: ·) := by
  have valid : char.toNat < 0xD800 ∨ 0xDFFF < char.toNat ∧ char.toNat < 0x110000 := char.valid
  simp only [encodeChar]
  split
  · rw [List.singleton_append, decode_unit (by omega), Char.ofNat_toNat]
  · have whole : 0x10000 + (char.toNat - 0x10000) / 0x400 * 0x400 +
        (char.toNat - 0x10000) % 0x400 = char.toNat := by
      omega
    have highBound : (char.toNat - 0x10000) / 0x400 < 0x400 := by omega
    have lowBound : (char.toNat - 0x10000) % 0x400 < 0x400 := by omega
    rw [List.cons_append, List.cons_append, List.nil_append, decode_pair highBound lowBound, whole,
      Char.ofNat_toNat]

theorem decode_flatMap_encodeChar (text : Text) :
    decode (text.flatMap encodeChar) = some text := by
  induction text with
  | nil => rfl
  | cons head tail ih => rw [List.flatMap_cons, decode_encodeChar_append, ih, Option.map_some]

example : decode [0xD83D] = none ∧ decode [0xDE00, 0xD83D] = none ∧
    decode [0xD83D, 0xDE00] = some [Char.ofNat 0x1F600] :=
  ⟨rfl, rfl, rfl⟩

end Utf16

end SignOnGate
