import Mathlib.Tactic.Common
import SignOnGate.Text.Blank
import SignOnGate.Text.Lower

/-!
# ASCII text

The full tables of lower case say about ASCII what one expects: its capital letters become small
letters, and everything else stays. Decimal digits are read back as the number that was written.
-/

namespace SignOnGate

namespace Text

theorem toNat_lt_of_isAscii {char : Char} (ascii : isAscii char = true) : char.toNat < 0x80 := by
  simpa [isAscii] using ascii

theorem forall_ascii (property : Char → Prop) (codes : ∀ code < 0x80, property (Char.ofNat code))
    {char : Char} (ascii : isAscii char = true) : property char := by
  have holds := codes char.toNat (toNat_lt_of_isAscii ascii)
  rwa [Char.ofNat_toNat] at holds

theorem isAscii_of_isAlphanum {char : Char} (alphanumeric : char.isAlphanum = true) :
    isAscii char = true := by
  delta Char.isAlphanum Char.isAlpha Char.isUpper Char.isLower Char.isDigit at alphanumeric
  simp only [Bool.or_eq_true, Bool.and_eq_true, decide_eq_true_eq, UInt32.le_iff_toNat_le,
    ge_iff_le] at alphanumeric
  have nine : '9'.val.toNat = 57 := rfl
  have capital : 'Z'.val.toNat = 90 := rfl
  have small : 'z'.val.toNat = 122 := rfl
  simp only [isAscii, Char.toNat, decide_eq_true_eq]
  omega

theorem isAlphanum_of_isAlpha {char : Char} (letter : char.isAlpha = true) :
    char.isAlphanum = true := by
  change (char.isAlpha || char.isDigit) = true
  rw [letter, Bool.true_or]

theorem isAlpha_of_isLower {char : Char} (small : char.isLower = true) : char.isAlpha = true := by
  change (char.isUpper || char.isLower) = true
  rw [small, Bool.or_true]

theorem isAscii_of_isDigit {char : Char} (digit : char.isDigit = true) : isAscii char = true := by
  apply isAscii_of_isAlphanum
  change (char.isAlpha || char.isDigit) = true
  rw [digit, Bool.or_true]

theorem isAscii_of_isAlpha {char : Char} (letter : char.isAlpha = true) : isAscii char = true :=
  isAscii_of_isAlphanum (isAlphanum_of_isAlpha letter)

theorem isAscii_of_isLower {char : Char} (small : char.isLower = true) : isAscii char = true :=
  isAscii_of_isAlpha (isAlpha_of_isLower small)

/-! ## Small letters -/

/-- Below the end of ASCII, only the capital letters have another small form. -/
theorem simpleLower_of_lt {code : Nat} (bound : code < 0x80) :
    simpleLower code = if 0x41 ≤ code ∧ code ≤ 0x5A then code + 32 else code := by
  have runs : caseRuns = ⟨0x41, 0x5A, 1, 32⟩ :: caseRuns.tail := rfl
  have others : ∀ run ∈ caseRuns.tail, 0x80 ≤ run.first := by decide +kernel
  have behind : caseRuns.tail.find? (·.holds code) = none := by
    apply List.find?_eq_none.mpr
    intro run listed
    have least := others run listed
    simp only [CaseRun.holds, Bool.and_eq_true, decide_eq_true_eq, beq_iff_eq]
    omega
  have notDotted : code ≠ 0x130 := by omega
  have first : (CaseRun.mk 0x41 0x5A 1 32).holds code = decide (0x41 ≤ code ∧ code ≤ 0x5A) := by
    simp [CaseRun.holds, Nat.mod_one]
  rw [simpleLower, if_neg notDotted, runs, List.find?_cons, behind, first]
  by_cases capital : 0x41 ≤ code ∧ code ≤ 0x5A
  · rw [if_pos capital, decide_eq_true capital]
    simp only
    omega
  · rw [if_neg capital, decide_eq_false capital]

/-- The code points of the capital letters move to those of the small ones. -/
theorem toNat_toLower (char : Char) : char.toLower.toNat =
    if 0x41 ≤ char.toNat ∧ char.toNat ≤ 0x5A then char.toNat + 32 else char.toNat := by
  have first : 'A'.val.toNat = 65 := rfl
  have last : 'Z'.val.toNat = 90 := rfl
  have apart : ('a'.val - 'A'.val).toNat = 32 := rfl
  delta Char.toLower
  split
  · rename_i capital
    simp only [ge_iff_le, UInt32.le_iff_toNat_le] at capital
    simp only [Char.toNat, UInt32.toNat_add, apart]
    rw [if_pos (by omega)]
    omega
  · rename_i notCapital
    simp only [ge_iff_le, UInt32.le_iff_toNat_le] at notCapital
    rw [if_neg]
    simp only [Char.toNat]
    omega

theorem lowerChar_of_ascii {char : Char} (ascii : isAscii char = true) :
    lowerChar char = [char.toLower] := by
  have bound := toNat_lt_of_isAscii ascii
  have notDotted : char.toNat ≠ 0x130 := by omega
  rw [lowerChar, if_neg notDotted, simpleLower_of_lt bound, ← toNat_toLower, Char.ofNat_toNat]

/-- For ASCII text, small forms need no regard to what stands around. -/
theorem lowerFrom_of_ascii (inWord : Bool) {text : Text}
    (ascii : ∀ char ∈ text, isAscii char = true) : lowerFrom inWord text = lowerAscii text := by
  induction text generalizing inWord with
  | nil => rfl
  | cons head rest ih =>
      have headAscii := ascii head List.mem_cons_self
      have notSigma : head ≠ 'Σ' := by
        rintro rfl
        exact absurd headAscii (by decide)
      rw [lowerFrom, if_neg notSigma, lowerChar_of_ascii headAscii,
        ih _ fun char member => ascii char (List.mem_cons_of_mem head member)]
      rfl

theorem flatMap_lowerChar_of_ascii {text : Text} (ascii : ∀ char ∈ text, isAscii char = true) :
    text.flatMap lowerChar = lowerAscii text := by
  induction text with
  | nil => rfl
  | cons head rest ih =>
      rw [List.flatMap_cons, lowerChar_of_ascii (ascii head List.mem_cons_self),
        ih fun char member => ascii char (List.mem_cons_of_mem head member)]
      rfl

theorem lower_of_ascii {text : Text} (ascii : ∀ char ∈ text, isAscii char = true) :
    lower text = lowerAscii text :=
  lowerFrom_of_ascii false ascii

theorem toLower_eq_self_or_isLower (char : Char) :
    char.toLower = char ∨ char.toLower.isLower = true := by
  have moved := toNat_toLower char
  split at moved
  · rename_i capital
    have first : 'a'.val.toNat = 97 := rfl
    have last : 'z'.val.toNat = 122 := rfl
    right
    delta Char.isLower
    simp only [Bool.and_eq_true, decide_eq_true_eq, ge_iff_le, UInt32.le_iff_toNat_le]
    simp only [Char.toNat] at moved capital
    omega
  · exact Or.inl (Char.toNat_inj.mp moved)

/-- What holds of all small letters holds of a text in small letters when it held before. -/
theorem forall_mem_lower {property : Char → Prop}
    (small : ∀ char, char.isLower = true → property char) {text : Text}
    (ascii : ∀ char ∈ text, isAscii char = true) (holds : ∀ char ∈ text, property char) :
    ∀ char ∈ lower text, property char := by
  intro char member
  rw [lower_of_ascii ascii] at member
  rcases List.mem_map.mp member with ⟨source, sourceMember, rfl⟩
  rcases toLower_eq_self_or_isLower source with same | isSmall
  · rw [same]
    exact holds source sourceMember
  · exact small _ isSmall

/-! ## Digits -/

theorem isDigit_iff (char : Char) :
    char.isDigit = true ↔ 0x30 ≤ char.toNat ∧ char.toNat ≤ 0x39 := by
  have first : '0'.val.toNat = 48 := rfl
  have last : '9'.val.toNat = 57 := rfl
  delta Char.isDigit
  simp only [Bool.and_eq_true, decide_eq_true_eq, ge_iff_le, UInt32.le_iff_toNat_le, first, last,
    Char.toNat]

/-- The hexadecimal digits by their codes. -/
theorem isHexDigit_iff (char : Char) :
    isHexDigit char = true ↔ (0x30 ≤ char.toNat ∧ char.toNat ≤ 0x39) ∨
      (0x61 ≤ char.toNat ∧ char.toNat ≤ 0x66) ∨ (0x41 ≤ char.toNat ∧ char.toNat ≤ 0x46) := by
  have digits : ('0' ≤ char ∧ char ≤ '9') ↔ 0x30 ≤ char.toNat ∧ char.toNat ≤ 0x39 := Iff.rfl
  have small : ('a' ≤ char ∧ char ≤ 'f') ↔ 0x61 ≤ char.toNat ∧ char.toNat ≤ 0x66 := Iff.rfl
  have capital : ('A' ≤ char ∧ char ≤ 'F') ↔ 0x41 ≤ char.toNat ∧ char.toNat ≤ 0x46 := Iff.rfl
  simp only [isHexDigit, hexValue?, digits, small, capital]
  split
  · rename_i isDigit
    simp [isDigit]
  · split
    · rename_i isSmall
      simp [isSmall]
    · split
      · rename_i isCapital
        simp [isCapital]
      · simp only [Option.isSome_none, Bool.false_eq_true, false_iff]
        omega

theorem isDigit_of_mem_ofNat {number : Nat} {char : Char} (member : char ∈ ofNat number) :
    char.isDigit = true :=
  Nat.isDigit_of_mem_toDigits (by decide) (by decide) member

theorem ofNat_ne_nil (number : Nat) : ofNat number ≠ [] :=
  Nat.toDigits_ne_nil

theorem hexValue?_of_isDigit {char : Char} (digit : char.isDigit = true) :
    hexValue? char = some (char.toNat - '0'.toNat) := by
  have range : '0' ≤ char ∧ char ≤ '9' := by simpa [Char.isDigit, Char.le_def] using digit
  rw [hexValue?, if_pos range]

/-- The value of decimal digits is the one that the library reads. -/
theorem digitsValue_eq_ofDigitChars {digits : Text} (all : ∀ char ∈ digits, char.isDigit = true) :
    digitsValue 10 digits = Nat.ofDigitChars 10 digits 0 := by
  have reads (start : Nat) :
      digits.foldl (fun value digit => value * 10 + (hexValue? digit).getD 0) start =
        Nat.ofDigitChars 10 digits start := by
    induction digits generalizing start with
    | nil => rfl
    | cons head rest ih =>
        rw [List.foldl_cons, Nat.ofDigitChars_cons, Nat.mul_comm 10 start,
          hexValue?_of_isDigit (all head List.mem_cons_self), Option.getD_some]
        exact ih (fun char member => all char (List.mem_cons_of_mem head member)) _
  exact reads 0

@[simp]
theorem digitsValue_ofNat (number : Nat) : digitsValue 10 (ofNat number) = number := by
  rw [digitsValue_eq_ofDigitChars fun char => isDigit_of_mem_ofNat]
  exact Nat.ofDigitChars_ten_toDigits

/-! ## Hexadecimal digits -/

theorem isAscii_of_isHexDigit {char : Char} (digit : isHexDigit char = true) :
    isAscii char = true := by
  have ranges := (isHexDigit_iff char).mp digit
  simp only [isAscii, decide_eq_true_eq]
  omega

theorem hexValue?_hexDigit {value : Nat} (bound : value < 16) :
    hexValue? (hexDigit value) = some value := by
  have digits : ∀ value < 16, hexValue? (hexDigit value) = some value := by decide
  exact digits value bound

@[simp]
theorem length_ofHex (width number : Nat) : (ofHex width number).length = width := by
  induction width generalizing number with
  | zero => rfl
  | succ width ih => simp [ofHex, ih]

theorem isHexDigit_of_mem_ofHex {width number : Nat} {char : Char}
    (member : char ∈ ofHex width number) : isHexDigit char = true := by
  induction width generalizing number with
  | zero => cases member
  | succ width ih =>
      rcases List.mem_append.mp member with front | last
      · exact ih front
      · rw [List.mem_singleton.mp last, isHexDigit, hexValue?_hexDigit (Nat.mod_lt _ (by omega)),
          Option.isSome_some]

/-- The digits of a number that fits are read as that number. -/
theorem digitsValue_ofHex {width number : Nat} (fits : number < Nat.pow 16 width) :
    digitsValue 16 (ofHex width number) = number := by
  induction width generalizing number with
  | zero =>
      have zero : number = 0 := Nat.lt_one_iff.mp fits
      rw [zero]
      rfl
  | succ width ih =>
      have inFront : number / 16 < Nat.pow 16 width := by
        rw [Nat.pow_eq, Nat.pow_succ] at fits
        exact (Nat.div_lt_iff_lt_mul (by omega)).mpr fits
      have front := ih inFront
      rw [digitsValue] at front
      rw [ofHex, digitsValue, List.foldl_append, front, List.foldl_cons, List.foldl_nil,
        hexValue?_hexDigit (Nat.mod_lt _ (by omega)), Option.getD_some]
      omega

end Text

end SignOnGate
