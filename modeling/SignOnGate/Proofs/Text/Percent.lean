import SignOnGate.Proofs.Text.Ascii
import SignOnGate.Proofs.Text.Utf8
import SignOnGate.Text.Percent

/-!
# Decoding what was encoded

Percent encoding is undone by decoding, for every text. An encoded text is made of percent signs and
unreserved characters, so none of the marks of a URL and of a query occurs in it.
-/

namespace SignOnGate

namespace Percent

variable {text rest : Text} {char : Char}

theorem isAscii_of_isUnreserved (unreserved : isUnreserved char = true) :
    Text.isAscii char = true := by
  simp only [isUnreserved, Bool.or_eq_true, beq_iff_eq] at unreserved
  rcases unreserved with (((alphanumeric | rfl) | rfl) | rfl) | rfl
  · exact Text.isAscii_of_isAlphanum alphanumeric
  all_goals decide

theorem isBlank_of_isUnreserved (unreserved : isUnreserved char = true) :
    Text.isBlank char = false :=
  Text.forall_ascii (fun char => isUnreserved char = true → Text.isBlank char = false)
    (by decide +kernel) (isAscii_of_isUnreserved unreserved) unreserved

theorem isUnreserved_capitalHexDigit {value : Nat} (bound : value < 16) :
    isUnreserved (capitalHexDigit value) = true := by
  have digits : ∀ value < 16, isUnreserved (capitalHexDigit value) = true := by decide
  exact digits value bound

theorem hexValue?_capitalHexDigit {value : Nat} (bound : value < 16) :
    Text.hexValue? (capitalHexDigit value) = some value := by
  have digits : ∀ value < 16, Text.hexValue? (capitalHexDigit value) = some value := by decide
  exact digits value bound

theorem mem_encodeByte {byte : UInt8} (member : char ∈ encodeByte byte) :
    char = '%' ∨ isUnreserved char = true := by
  have bound : byte.toNat < 256 := byte.toNat_lt
  simp only [encodeByte, List.mem_cons, List.not_mem_nil, or_false] at member
  rcases member with isPercent | rfl | rfl
  · exact Or.inl isPercent
  · exact Or.inr (isUnreserved_capitalHexDigit (by omega))
  · exact Or.inr (isUnreserved_capitalHexDigit (by omega))

theorem mem_encode (member : char ∈ encode text) : char = '%' ∨ isUnreserved char = true := by
  rcases List.mem_flatMap.mp member with ⟨source, -, inSource⟩
  rw [encodeChar] at inSource
  split at inSource
  · rename_i unreserved
    rw [List.mem_singleton.mp inSource]
    exact Or.inr unreserved
  · rcases List.mem_flatMap.mp inSource with ⟨byte, -, inByte⟩
    exact mem_encodeByte inByte

/-- A character that is neither a percent sign nor unreserved does not occur in an encoded text. -/
theorem not_mem_encode (notPercent : char ≠ '%') (reserved : isUnreserved char = false)
    (text : Text) : char ∉ encode text := by
  intro member
  rcases mem_encode member with isPercent | unreserved
  · exact notPercent isPercent
  · rw [reserved] at unreserved
    cases unreserved

/-! ## Escapes -/

theorem unescape_cons (notPercent : char ≠ '%') (rest : Text) :
    unescape (char :: rest) = plainPiece char :: unescape rest := by
  match rest with
  | [] => rfl
  | [second] => rfl
  | second :: third :: others => rw [unescape, if_neg notPercent]

theorem unescape_encodeByte (byte : UInt8) (rest : Text) :
    unescape (encodeByte byte ++ rest) = .byte byte :: unescape rest := by
  have bound : byte.toNat < 256 := byte.toNat_lt
  have whole : byte.toNat / 16 * 16 + byte.toNat % 16 = byte.toNat := by omega
  rw [encodeByte, List.cons_append, List.cons_append, List.cons_append, List.nil_append, unescape,
    if_pos rfl, hexValue?_capitalHexDigit (by omega), hexValue?_capitalHexDigit (by omega)]
  simp only [whole, UInt8.ofNat_toNat]

theorem unescape_encodeBytes (bytes : List UInt8) (rest : Text) :
    unescape (bytes.flatMap encodeByte ++ rest) = bytes.map .byte ++ unescape rest := by
  induction bytes with
  | nil => rfl
  | cons head tail ih =>
      rw [List.flatMap_cons, List.append_assoc, unescape_encodeByte, ih, List.map_cons,
        List.cons_append]

/-- The escapes of a character are undone to its bytes, whatever stands behind them. -/
theorem unescape_encodeChar (char : Char) (rest : Text) :
    unescape (encodeChar char ++ rest) = (Utf8.encodeChar char).map .byte ++ unescape rest := by
  rw [encodeChar]
  split
  · rename_i unreserved
    have ascii := isAscii_of_isUnreserved unreserved
    have notPercent : char ≠ '%' := by
      rintro rfl
      cases unreserved
    have bound := Text.toNat_lt_of_isAscii ascii
    rw [List.singleton_append, unescape_cons notPercent]
    simp [plainPiece, ascii, Utf8.encodeChar, bound]
  · exact unescape_encodeBytes _ rest

theorem unescape_encode (text rest : Text) :
    unescape (encode text ++ rest) = (Utf8.encode text).map .byte ++ unescape rest := by
  induction text with
  | nil => rfl
  | cons head tail ih =>
      have first := unescape_encodeChar head (encode tail ++ rest)
      rw [ih] at first
      simpa [encode, Utf8.encode] using first

/-- Percent encoding is undone by decoding. -/
@[simp]
theorem decode_encode (text : Text) : decode (encode text) = text := by
  have unescaped := unescape_encode text []
  rw [List.append_nil] at unescaped
  rw [decode, Utf8.decode, unescaped, Utf8.decodeFrom_encode]
  exact List.append_nil text

theorem encode_of_isUnreserved (plain : ∀ char ∈ text, isUnreserved char = true) :
    encode text = text := by
  induction text with
  | nil => rfl
  | cons head tail ih =>
      have headPlain := plain head List.mem_cons_self
      rw [encode, List.flatMap_cons, encodeChar, if_pos headPlain, List.singleton_append]
      have plainRest := fun char member => plain char (List.mem_cons_of_mem head member)
      exact congrArg (head :: ·) (ih plainRest)

end Percent

end SignOnGate
