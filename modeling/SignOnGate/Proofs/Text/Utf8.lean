import SignOnGate.Proofs.Text.Ascii
import SignOnGate.Text.Utf8

/-!
# Reading what was encoded

The lenient reader gives back every text from its bytes, and goes on with whatever stands behind
them. A character of more than one byte takes the reader through one state for each byte that is
still to come; the bounds of the first of these bytes depend on the one before.
-/

namespace SignOnGate

namespace Utf8

variable {rest : List Piece}

theorem toNat_ofNat_of_lt {code : Nat} (bound : code < 0x100) : (UInt8.ofNat code).toNat = code :=
  UInt8.toNat_ofNat_of_lt' bound

theorem decodeFrom_begin {byte : UInt8} {state : State}
    (begins : first byte.toNat = some (.inr state)) :
    decodeFrom .between (.byte byte :: rest) = decodeFrom state rest := by
  simp [decodeFrom, step, begin, begins]

theorem decodeFrom_continue {collected missing low high : Nat} {byte : UInt8}
    (inside : low ≤ byte.toNat ∧ byte.toNat ≤ high) :
    decodeFrom (.inside collected (missing + 1) low high) (.byte byte :: rest) =
      decodeFrom (.inside (collected * 0x40 + byte.toNat % 0x40) missing 0x80 0xBF) rest := by
  simp [decodeFrom, step, inside]

theorem decodeFrom_finish {collected low high : Nat} {byte : UInt8}
    (inside : low ≤ byte.toNat ∧ byte.toNat ≤ high) :
    decodeFrom (.inside collected 0 low high) (.byte byte :: rest) =
      Char.ofNat (collected * 0x40 + byte.toNat % 0x40) :: decodeFrom .between rest := by
  simp [decodeFrom, step, inside]

/-! ## First bytes -/

theorem first_of_two {code : Nat} (least : 0x80 ≤ code) (bound : code < 0x800) :
    first (0xC0 + code / 0x40) = some (.inr (.inside (code / 0x40) 0 0x80 0xBF)) := by
  have notAscii : ¬0xC0 + code / 0x40 < 0x80 := by omega
  have notStray : ¬0xC0 + code / 0x40 < 0xC2 := by omega
  have inRange : 0xC0 + code / 0x40 < 0xE0 := by omega
  simp only [first, if_neg notAscii, if_neg notStray, if_pos inRange, Nat.add_sub_cancel_left]

/-- The first of three bytes opens a state that its second byte satisfies. -/
theorem first_of_three {code : Nat} (least : 0x800 ≤ code) (bound : code < 0x10000)
    (noSurrogate : code < 0xD800 ∨ 0xDFFF < code) :
    ∃ low high, first (0xE0 + code / 0x1000) = some (.inr (.inside (code / 0x1000) 1 low high)) ∧
      low ≤ 0x80 + code / 0x40 % 0x40 ∧ 0x80 + code / 0x40 % 0x40 ≤ high := by
  have notTwo : ¬0xE0 + code / 0x1000 < 0xE0 := by omega
  have notAscii : ¬0xE0 + code / 0x1000 < 0x80 := by omega
  have notStray : ¬0xE0 + code / 0x1000 < 0xC2 := by omega
  simp only [first, if_neg notAscii, if_neg notStray, if_neg notTwo, Nat.add_sub_cancel_left]
  split
  · have lead : code / 0x1000 = 0 := by omega
    refine ⟨0xA0, 0xBF, by rw [lead], ?_, ?_⟩ <;> omega
  · split
    · have lead : code / 0x1000 = 0xD := by omega
      refine ⟨0x80, 0x9F, by rw [lead], ?_, ?_⟩ <;> omega
    · have inRange : 0xE0 + code / 0x1000 < 0xF0 := by omega
      rw [if_pos inRange]
      refine ⟨0x80, 0xBF, rfl, ?_, ?_⟩ <;> omega

/-- The first of four bytes opens a state that its second byte satisfies. -/
theorem first_of_four {code : Nat} (least : 0x10000 ≤ code) (bound : code < 0x110000) :
    ∃ low high, first (0xF0 + code / 0x40000) = some (.inr (.inside (code / 0x40000) 2 low high)) ∧
      low ≤ 0x80 + code / 0x1000 % 0x40 ∧ 0x80 + code / 0x1000 % 0x40 ≤ high := by
  have notThree : ¬0xF0 + code / 0x40000 < 0xF0 := by omega
  have notAscii : ¬0xF0 + code / 0x40000 < 0x80 := by omega
  have notStray : ¬0xF0 + code / 0x40000 < 0xC2 := by omega
  have notTwo : ¬0xF0 + code / 0x40000 < 0xE0 := by omega
  have notLeast : ¬0xF0 + code / 0x40000 = 0xE0 := by omega
  have notSurrogates : ¬0xF0 + code / 0x40000 = 0xED := by omega
  simp only [first, if_neg notAscii, if_neg notStray, if_neg notTwo, if_neg notLeast,
    if_neg notSurrogates, if_neg notThree, Nat.add_sub_cancel_left]
  split
  · have lead : code / 0x40000 = 0 := by omega
    refine ⟨0x90, 0xBF, by rw [lead], ?_, ?_⟩ <;> omega
  · split
    · refine ⟨0x80, 0xBF, rfl, ?_, ?_⟩ <;> omega
    · have lead : code / 0x40000 = 4 := by omega
      rw [if_pos (by omega)]
      refine ⟨0x80, 0x8F, by rw [lead], ?_, ?_⟩ <;> omega

/-! ## Whole characters and texts -/

theorem toNat_tail (part : Nat) : (UInt8.ofNat (0x80 + part % 0x40)).toNat = 0x80 + part % 0x40 :=
  toNat_ofNat_of_lt (by omega)

theorem decodeFrom_one {code : Nat} (bound : code < 0x80) :
    decodeFrom .between (.byte (UInt8.ofNat code) :: rest) =
      Char.ofNat code :: decodeFrom .between rest := by
  simp [decodeFrom, step, begin, first, toNat_ofNat_of_lt (by omega : code < 0x100), bound]

theorem decodeFrom_two {code : Nat} (least : 0x80 ≤ code) (bound : code < 0x800) :
    decodeFrom .between (.byte (UInt8.ofNat (0xC0 + code / 0x40)) ::
        .byte (UInt8.ofNat (0x80 + code % 0x40)) :: rest) =
      Char.ofNat code :: decodeFrom .between rest := by
  have begins := first_of_two least bound
  rw [← toNat_ofNat_of_lt (by omega : 0xC0 + code / 0x40 < 0x100)] at begins
  have whole : code / 0x40 * 0x40 + (0x80 + code % 0x40) % 0x40 = code := by omega
  rw [decodeFrom_begin begins, decodeFrom_finish (by rw [toNat_tail]; omega), toNat_tail, whole]

/-- Three bytes are decoded to their character, whatever stands behind them. -/
theorem decodeFrom_three {code : Nat} (least : 0x800 ≤ code) (bound : code < 0x10000)
    (noSurrogate : code < 0xD800 ∨ 0xDFFF < code) :
    decodeFrom .between (.byte (UInt8.ofNat (0xE0 + code / 0x1000)) ::
        .byte (UInt8.ofNat (0x80 + code / 0x40 % 0x40)) ::
        .byte (UInt8.ofNat (0x80 + code % 0x40)) :: rest) =
      Char.ofNat code :: decodeFrom .between rest := by
  rcases first_of_three least bound noSurrogate with ⟨low, high, begins, inside⟩
  rw [← toNat_ofNat_of_lt (by omega : 0xE0 + code / 0x1000 < 0x100)] at begins
  have whole : (code / 0x1000 * 0x40 + (0x80 + code / 0x40 % 0x40) % 0x40) * 0x40 +
      (0x80 + code % 0x40) % 0x40 = code := by
    omega
  rw [decodeFrom_begin begins, decodeFrom_continue (by rw [toNat_tail]; exact inside),
    decodeFrom_finish (by rw [toNat_tail]; omega), toNat_tail, toNat_tail, whole]

/-- Four bytes are decoded to their character, whatever stands behind them. -/
theorem decodeFrom_four {code : Nat} (least : 0x10000 ≤ code) (bound : code < 0x110000) :
    decodeFrom .between (.byte (UInt8.ofNat (0xF0 + code / 0x40000)) ::
        .byte (UInt8.ofNat (0x80 + code / 0x1000 % 0x40)) ::
        .byte (UInt8.ofNat (0x80 + code / 0x40 % 0x40)) ::
        .byte (UInt8.ofNat (0x80 + code % 0x40)) :: rest) =
      Char.ofNat code :: decodeFrom .between rest := by
  rcases first_of_four least bound with ⟨low, high, begins, inside⟩
  rw [← toNat_ofNat_of_lt (by omega : 0xF0 + code / 0x40000 < 0x100)] at begins
  have whole : ((code / 0x40000 * 0x40 + (0x80 + code / 0x1000 % 0x40) % 0x40) * 0x40 +
      (0x80 + code / 0x40 % 0x40) % 0x40) * 0x40 + (0x80 + code % 0x40) % 0x40 = code := by
    omega
  rw [decodeFrom_begin begins, decodeFrom_continue (by rw [toNat_tail]; exact inside),
    decodeFrom_continue (by rw [toNat_tail]; omega), decodeFrom_finish (by rw [toNat_tail]; omega),
    toNat_tail, toNat_tail, toNat_tail, whole]

/-- The bytes of a character are read as that character. -/
theorem decodeFrom_encodeChar (char : Char) (rest : List Piece) :
    decodeFrom .between ((encodeChar char).map .byte ++ rest) =
      char :: decodeFrom .between rest := by
  have valid : char.toNat < 0xD800 ∨ 0xDFFF < char.toNat ∧ char.toNat < 0x110000 := char.valid
  have read : decodeFrom .between ((encodeChar char).map .byte ++ rest) =
      Char.ofNat char.toNat :: decodeFrom .between rest := by
    simp only [encodeChar]
    split
    · apply decodeFrom_one
      omega
    · split
      · apply decodeFrom_two <;> omega
      · split
        · apply decodeFrom_three <;> omega
        · apply decodeFrom_four <;> omega
  rw [read, Char.ofNat_toNat]

theorem decodeFrom_encode (text : Text) (rest : List Piece) :
    decodeFrom .between ((encode text).map .byte ++ rest) = text ++ decodeFrom .between rest := by
  induction text with
  | nil => rfl
  | cons head tail ih =>
      rw [encode, List.flatMap_cons, List.map_append, List.append_assoc, decodeFrom_encodeChar]
      exact congrArg (head :: ·) ih

/-! ## ASCII -/

/-- The strict reader takes each ASCII byte for a character. -/
theorem decodeStrict_of_ascii {bytes : List UInt8} (ascii : ∀ byte ∈ bytes, byte.toNat < 0x80) :
    decodeStrict bytes = some (bytes.map fun byte => Char.ofNat byte.toNat) := by
  rw [decodeStrict]
  induction bytes with
  | nil => rfl
  | cons head tail ih =>
      have bound := ascii head List.mem_cons_self
      have rest := ih fun byte member => ascii byte (List.mem_cons_of_mem head member)
      simp [decodeStrictFrom, first, bound, rest]

theorem encode_of_ascii {text : Text} (ascii : ∀ char ∈ text, Text.isAscii char = true) :
    encode text = text.map fun char => UInt8.ofNat char.toNat := by
  induction text with
  | nil => rfl
  | cons head tail ih =>
      have bound := Text.toNat_lt_of_isAscii (ascii head List.mem_cons_self)
      rw [encode, List.flatMap_cons, encodeChar, if_pos bound]
      exact congrArg (UInt8.ofNat head.toNat :: ·)
        (ih fun char member => ascii char (List.mem_cons_of_mem head member))

/-- ASCII text takes one ASCII byte for each character. -/
theorem lt_of_mem_encode_of_ascii {text : Text} (ascii : ∀ char ∈ text, Text.isAscii char = true) :
    ∀ byte ∈ encode text, byte.toNat < 0x80 := by
  intro byte member
  rw [encode_of_ascii ascii] at member
  rcases List.mem_map.mp member with ⟨char, listed, rfl⟩
  have bound := Text.toNat_lt_of_isAscii (ascii char listed)
  rwa [toNat_ofNat_of_lt (by omega)]

theorem decodeStrict_encode_of_ascii {text : Text}
    (ascii : ∀ char ∈ text, Text.isAscii char = true) : decodeStrict (encode text) = some text := by
  have readBack : ∀ char ∈ text, Char.ofNat (UInt8.ofNat char.toNat).toNat = char := by
    intro char listed
    have bound := Text.toNat_lt_of_isAscii (ascii char listed)
    rw [toNat_ofNat_of_lt (by omega), Char.ofNat_toNat]
  rw [decodeStrict_of_ascii (lt_of_mem_encode_of_ascii ascii), encode_of_ascii ascii, List.map_map]
  exact congrArg some ((List.map_congr_left readBack).trans (List.map_id text))

end Utf8

end SignOnGate
