import SignOnGate.Proofs.Text.Percent

/-!
# Texts with and without escapes

Decoding goes through a text escape by escape, and an escape is found wherever a percent sign has
two hexadecimal digits behind it, because no digit is a percent sign. Each escape is read as one
piece, and no piece becomes more than one character. So decoding changes a text exactly when it has
an escape.
-/

namespace SignOnGate

namespace Utf8

/-- The characters that a reader still owes for bytes that it has read. -/
def State.owed : State → Nat
  | .between => 0
  | .inside _ _ _ _ => 1

theorem length_begin_le (byte : UInt8) : (begin byte).1.length + (begin byte).2.owed ≤ 1 := by
  simp only [begin]
  split
  · simp [State.owed]
  · rename_i state _
    cases state <;> simp [State.owed]
  · simp [State.owed]

/-- A move writes no more than what was owed and one character for the piece. -/
theorem length_step_le (state : State) (piece : Piece) :
    (step state piece).1.length + (step state piece).2.owed ≤ state.owed + 1 := by
  cases state with
  | between =>
      cases piece with
      | char char => simp [step, State.owed]
      | byte byte => simpa [step, State.owed] using length_begin_le byte
  | inside collected missing low high =>
      cases piece with
      | char char => simp [step, State.owed]
      | byte byte =>
          have anew := length_begin_le byte
          simp only [step]
          split
          · cases missing <;> simp [State.owed]
          · simp only [List.length_cons, State.owed] at anew ⊢
            omega

/-- Decoding does not make pieces more, apart from those that are still owed. -/
theorem length_decodeFrom_le (state : State) (pieces : List Piece) :
    (decodeFrom state pieces).length ≤ pieces.length + state.owed := by
  induction pieces generalizing state with
  | nil => cases state <;> simp [decodeFrom, State.owed]
  | cons piece rest ih =>
      have moved := length_step_le state piece
      have behind := ih (step state piece).2
      have whole : decodeFrom state (piece :: rest) =
          (step state piece).1 ++ decodeFrom (step state piece).2 rest := by
        cases state <;> rfl
      rw [whole, List.length_append, List.length_cons]
      omega

/-- No piece becomes more than one character. -/
theorem length_decode_le (pieces : List Piece) : (decode pieces).length ≤ pieces.length :=
  length_decodeFrom_le .between pieces

end Utf8

namespace Percent

open Text

/-- Whether a text begins with two hexadecimal digits, as an escape does behind its percent sign. -/
def startsWithDigits : Text → Bool
  | high :: low :: _ => isHexDigit high && isHexDigit low
  | _ => false

variable {char high low : Char} {text front rest : Text}

/-- A percent sign with two hexadecimal digits is read as one byte, whatever stands behind it. -/
theorem exists_unescape_escape (digits : isHexDigit high = true ∧ isHexDigit low = true) :
    ∃ byte, ∀ rest, unescape ('%' :: high :: low :: rest) = .byte byte :: unescape rest := by
  rcases Option.isSome_iff_exists.mp digits.1 with ⟨upper, upper_eq⟩
  rcases Option.isSome_iff_exists.mp digits.2 with ⟨lower, lower_eq⟩
  refine ⟨UInt8.ofNat (upper * 16 + lower), ?_⟩
  intro rest
  simp [unescape, upper_eq, lower_eq]

/-- Any other character is read as itself. -/
theorem unescape_of_plain (plain : char = '%' → startsWithDigits rest = false) :
    unescape (char :: rest) = plainPiece char :: unescape rest := by
  by_cases percent : char = '%'
  · have noDigits := plain percent
    subst percent
    match rest with
    | [] => rfl
    | [second] => rfl
    | second :: third :: others =>
        simp only [startsWithDigits, isHexDigit, Bool.and_eq_false_iff, Option.isSome_eq_false_iff,
          Option.isNone_iff_eq_none] at noDigits
        rcases noDigits with none | none <;> simp [unescape, none]
  · exact unescape_cons percent rest

/-- Induction along the escapes of a text. -/
@[elab_as_elim]
theorem escapeInduction {motive : Text → Prop} (nil : motive [])
    (escape : ∀ high low rest, isHexDigit high = true ∧ isHexDigit low = true → motive rest →
      motive ('%' :: high :: low :: rest))
    (plain : ∀ char rest, (char = '%' → startsWithDigits rest = false) → motive rest →
      motive (char :: rest)) (text : Text) : motive text := by
  induction size : text.length using Nat.strongRecOn generalizing text with
  | ind size ih =>
      subst size
      cases text with
      | nil => exact nil
      | cons char rest =>
          by_cases escaped : char = '%' ∧ startsWithDigits rest = true
          · rcases escaped with ⟨rfl, digits⟩
            match rest with
            | high :: low :: others =>
                apply escape high low others
                · simpa [startsWithDigits] using digits
                · exact ih others.length (by simp; omega) others rfl
          · apply plain char rest
            · simpa using escaped
            · exact ih rest.length (by simp) rest rfl

/-- Undoing escapes does not make a text longer. -/
theorem length_unescape_le (text : Text) : (unescape text).length ≤ text.length := by
  induction text using escapeInduction with
  | nil => simp [unescape]
  | escape high low rest digits ih =>
      rcases exists_unescape_escape digits with ⟨byte, read⟩
      rw [read]
      simp only [List.length_cons]
      omega
  | plain char rest plain ih =>
      rw [unescape_of_plain plain]
      simpa using ih

theorem startsWithDigits_cons (noDigit : isHexDigit char = false) (rest : Text) :
    startsWithDigits (char :: rest) = false := by
  cases rest <;> simp [startsWithDigits, noDigit]

/-- A percent sign is no digit of an escape in front of it. -/
theorem startsWithDigits_append_percent (noDigits : startsWithDigits text = false) (rest : Text) :
    startsWithDigits (text ++ '%' :: rest) = false := by
  have percent : isHexDigit '%' = false := by decide
  match text with
  | [] => exact startsWithDigits_cons percent rest
  | [high] => simp [startsWithDigits, percent]
  | high :: low :: others => exact noDigits

/-- So what stands in front of a percent sign is read apart from it. -/
theorem unescape_append_percent (front rest : Text) :
    unescape (front ++ '%' :: rest) = unescape front ++ unescape ('%' :: rest) := by
  induction front using escapeInduction with
  | nil => rfl
  | escape high low others digits ih =>
      rcases exists_unescape_escape digits with ⟨byte, read⟩
      rw [List.cons_append, List.cons_append, List.cons_append, read, read, ih, List.cons_append]
  | plain char others plain ih =>
      rw [List.cons_append, unescape_of_plain, unescape_of_plain plain, ih, List.cons_append]
      intro percent
      exact startsWithDigits_append_percent (plain percent) rest

/-- An escape makes the text shorter when it is decoded. -/
theorem length_decode_lt (digits : isHexDigit high = true ∧ isHexDigit low = true)
    (front rest : Text) :
    (decode (front ++ '%' :: high :: low :: rest)).length <
      (front ++ '%' :: high :: low :: rest).length := by
  rcases exists_unescape_escape digits with ⟨byte, read⟩
  have pieces := Utf8.length_decode_le (unescape (front ++ '%' :: high :: low :: rest))
  have inFront := length_unescape_le front
  have behind := length_unescape_le rest
  rw [← decode, unescape_append_percent, read] at pieces
  simp only [List.length_append, List.length_cons] at pieces ⊢
  omega

/-- Pieces that were not escaped are the characters that they stand for. -/
theorem decode_map_plainPiece (text : Text) : Utf8.decode (text.map plainPiece) = text := by
  rw [Utf8.decode]
  induction text with
  | nil => rfl
  | cons head rest ih =>
      rw [List.map_cons, plainPiece]
      split
      · rename_i ascii
        rw [Utf8.decodeFrom_one (toNat_lt_of_isAscii ascii), Char.ofNat_toNat, ih]
      · exact congrArg (head :: ·) ih

/-- Decoding changes nothing exactly in a text without escapes. -/
theorem decode_eq_self_iff (text : Text) :
    decode text = text ↔ ∀ high low, isHexDigit high = true → isHexDigit low = true →
      ¬['%', high, low] <:+: text := by
  constructor
  · rintro same high low highDigit lowDigit ⟨front, rest, rfl⟩
    have shorter := length_decode_lt ⟨highDigit, lowDigit⟩ front rest
    simp only [List.append_assoc, List.cons_append, List.nil_append] at same
    rw [same] at shorter
    exact Nat.lt_irrefl _ shorter
  · intro noEscape
    have pieces : unescape text = text.map plainPiece := by
      induction text using escapeInduction with
      | nil => rfl
      | escape high low rest digits ih =>
          exact absurd ⟨[], rest, rfl⟩ (noEscape high low digits.1 digits.2)
      | plain char rest plain ih =>
          rw [unescape_of_plain plain, List.map_cons, ih]
          intro high low highDigit lowDigit inRest
          exact noEscape high low highDigit lowDigit
            (inRest.trans (List.suffix_cons char rest).isInfix)
    rw [decode, pieces, decode_map_plainPiece]

end Percent

end SignOnGate
