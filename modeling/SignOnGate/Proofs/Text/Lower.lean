import Mathlib.Data.List.Basic
import SignOnGate.Proofs.Text.Ascii

/-!
# Lower case, character by character

Lowering changes a character at most once: no small form is the large form of another character. So
a lowered text stays as it is, whatever it is put in front of. Digits, blanks and the marks of a URL
are still: lowering neither makes nor removes them, and they do not make a word. The only character
whose small form depends on what stands around it is the capital sigma; `startsFinalSigma` is the
one case in which the text in front makes a difference.
-/

namespace SignOnGate

namespace Text

variable {char mark : Char} {front text rest : Text} {inWord : Bool}

/-! ## The table of runs -/

/-- No small form of the first run is a character of the second run. -/
def CaseRun.avoids (run other : CaseRun) : Bool :=
  match (run.first : Int) + run.offset with
  | .negSucc _ => false
  | .ofNat low =>
    Nat.blt (low + (run.last - run.first)) other.first || Nat.blt other.last low ||
      (Nat.beq other.step 2 && (Nat.beq run.step 2 || Nat.beq run.first run.last) &&
        Nat.beq ((low + other.first) % 2) 1)

theorem caseRuns_avoid : (caseRuns.all fun run => caseRuns.all run.avoids) = true := by
  decide +kernel

/-- A run that avoids another one does not lead into it. -/
theorem CaseRun.holds_eq_false_of_avoids {run other : CaseRun} (avoids : run.avoids other = true)
    {code : Nat} (holds : run.holds code = true) :
    other.holds ((code : Int) + run.offset).toNat = false := by
  rw [CaseRun.avoids] at avoids
  split at avoids
  · cases avoids
  · rename_i low low_eq
    simp only [Bool.or_eq_true, Bool.and_eq_true, Nat.blt_eq, Nat.beq_eq] at avoids
    simp only [CaseRun.holds, Bool.and_eq_true, decide_eq_true_eq, beq_iff_eq] at holds
    rw [Bool.eq_false_iff]
    intro holdsToo
    simp only [CaseRun.holds, Bool.and_eq_true, decide_eq_true_eq, beq_iff_eq] at holdsToo
    have image : ((code : Int) + run.offset).toNat = low + (code - run.first) := by
      rw [Int.ofNat_eq_natCast] at low_eq
      omega
    rw [image] at holdsToo
    rcases avoids with (above | below) | ⟨⟨other_step, steps⟩, odd⟩
    · omega
    · omega
    · -- The images stay in one parity class, and the other run lies in the other one.
      rw [other_step] at holdsToo
      rcases steps with run_step | single
      · rw [run_step] at holds
        omega
      · omega

/-- Small forms lie behind the space, none is the dotted capital letter, and the sigma has one. -/
theorem caseRuns_bounds : (∀ run ∈ caseRuns,
    (0x20 : Int) ≤ run.first + run.offset ∧ run.reaches 0x130 = false) ∧
      ∃ run ∈ caseRuns, run.holds 'Σ'.toNat = true := by
  decide +kernel

/-- No small letter is in front of the space. -/
theorem CaseRun.space_le_of_holds {run : CaseRun} (listed : run ∈ caseRuns) {code : Nat}
    (holds : run.holds code = true) : 0x20 ≤ ((code : Int) + run.offset).toNat := by
  have bound := (caseRuns_bounds.1 run listed).1
  simp only [CaseRun.holds, Bool.and_eq_true, decide_eq_true_eq] at holds
  omega

theorem CaseRun.reaches_of_holds {run : CaseRun} (listed : run ∈ caseRuns) {code : Nat}
    (holds : run.holds code = true) : run.reaches ((code : Int) + run.offset).toNat = true := by
  have bound := CaseRun.space_le_of_holds listed holds
  have source : ((((code : Int) + run.offset).toNat : Int) - run.offset).toNat = code := by omega
  rw [CaseRun.reaches]
  simp only [source, holds, Bool.and_true, decide_eq_true_eq]
  omega

/-- A character either stays, or moves along one of the runs. -/
theorem simpleLower_cases {code : Nat} (notDotted : code ≠ 0x130) :
    (simpleLower code = code ∧ ∀ run ∈ caseRuns, run.holds code = false) ∨
      ∃ run ∈ caseRuns, run.holds code = true ∧
        simpleLower code = ((code : Int) + run.offset).toNat := by
  rw [simpleLower, if_neg notDotted]
  split
  · rename_i run found
    have holds := List.find?_some found
    exact Or.inr ⟨run, List.mem_of_find?_eq_some found, holds, rfl⟩
  · rename_i missing
    refine Or.inl ⟨rfl, ?_⟩
    intro run listed
    simpa using List.find?_eq_none.mp missing run listed

theorem simpleLower_of_not_held {code : Nat} (notDotted : code ≠ 0x130)
    (notHeld : ∀ run ∈ caseRuns, run.holds code = false) : simpleLower code = code := by
  rcases simpleLower_cases notDotted with ⟨stays, -⟩ | ⟨run, listed, holds, -⟩
  · exact stays
  · rw [notHeld run listed] at holds
    cases holds

/-! ## The first character -/

/-- The small form of the first character of a text, where a sigma may be final. -/
def lowerHead (isFinal : Bool) (head : Char) : Text :=
  if head = 'Σ' then [if isFinal then 'ς' else 'σ'] else lowerChar head

theorem lowerFrom_cons (inWord : Bool) (head : Char) (rest : Text) :
    lowerFrom inWord (head :: rest) = lowerHead (inWord && !startsCased rest) head ++
      lowerFrom (if isCaseIgnorable head then inWord else isCased head) rest := rfl

theorem lowerHead_ne_nil (isFinal : Bool) (head : Char) : lowerHead isFinal head ≠ [] := by
  rw [lowerHead, lowerChar]
  split
  · simp
  · split <;> simp

/-! ## Small characters -/

theorem ofNat_eq_zero_or_toNat (code : Nat) :
    Char.ofNat code = '\x00' ∨ (Char.ofNat code).toNat = code := by
  by_cases valid : code.isValidChar
  · exact Or.inr (by rw [Char.ofNat, dif_pos valid]; rfl)
  · exact Or.inl (by rw [Char.ofNat, dif_neg valid]; rfl)

/-- A character that is its own small form, wherever it stands. -/
def isSmall (char : Char) : Bool :=
  char != 'Σ' && lowerChar char == [char]

theorem isSmall_iff : isSmall char = true ↔ char ≠ 'Σ' ∧ lowerChar char = [char] := by
  simp [isSmall]

theorem lowerChar_eq_self (notDotted : char.toNat ≠ 0x130)
    (notHeld : ∀ run ∈ caseRuns, run.holds char.toNat = false) : lowerChar char = [char] := by
  rw [lowerChar, if_neg notDotted, simpleLower_of_not_held notDotted notHeld, Char.ofNat_toNat]

/-- The characters that do not come from a run are small. -/
theorem all_isSmall : ['\x00', 'i', '\u0307', 'ς', 'σ'].all isSmall = true := by
  decide +kernel

/-- What a character moves to does not move again. -/
theorem isSmall_ofNat_of_holds {run : CaseRun} (listed : run ∈ caseRuns) {code : Nat}
    (holds : run.holds code = true) :
    isSmall (Char.ofNat ((code : Int) + run.offset).toNat) = true := by
  have reached := CaseRun.reaches_of_holds listed holds
  have notHeld : ∀ other ∈ caseRuns, other.holds ((code : Int) + run.offset).toNat = false := by
    intro other listedToo
    have avoid := List.all_eq_true.mp caseRuns_avoid run listed
    exact CaseRun.holds_eq_false_of_avoids (List.all_eq_true.mp avoid other listedToo) holds
  generalize ((code : Int) + run.offset).toNat = moved at reached notHeld
  rcases ofNat_eq_zero_or_toNat moved with invalid | valid
  · rw [invalid]
    exact List.all_eq_true.mp all_isSmall '\x00' (by simp)
  · have notDotted : (Char.ofNat moved).toNat ≠ 0x130 := by
      intro dotted
      rw [← valid, dotted, (caseRuns_bounds.1 run listed).2] at reached
      cases reached
    have notSigma : Char.ofNat moved ≠ 'Σ' := by
      rcases caseRuns_bounds.2 with ⟨other, listedToo, holdsSigma⟩
      intro sigma
      rw [← sigma, valid, notHeld other listedToo] at holdsSigma
      cases holdsSigma
    refine isSmall_iff.mpr ⟨notSigma, lowerChar_eq_self notDotted ?_⟩
    rwa [valid]

/--
The small forms of a character are small, but for the capital sigma, whose form depends on its
place.
-/
theorem isSmall_of_mem_lowerChar (notSigma : char ≠ 'Σ') {small : Char}
    (member : small ∈ lowerChar char) : isSmall small = true := by
  rw [lowerChar] at member
  split at member
  · apply List.all_eq_true.mp all_isSmall small
    rcases List.mem_pair.mp member with rfl | rfl <;> simp
  · rename_i notDotted
    rw [List.mem_singleton.mp member]
    rcases simpleLower_cases notDotted with ⟨stays, notHeld⟩ | ⟨run, listed, holds, moved⟩
    · rw [stays, Char.ofNat_toNat]
      exact isSmall_iff.mpr ⟨notSigma, lowerChar_eq_self notDotted notHeld⟩
    · rw [moved]
      exact isSmall_ofNat_of_holds listed holds

theorem isSmall_of_mem_lowerHead {isFinal : Bool} {head small : Char}
    (member : small ∈ lowerHead isFinal head) : isSmall small = true := by
  rw [lowerHead] at member
  split at member
  · apply List.all_eq_true.mp all_isSmall small
    rw [List.mem_singleton.mp member]
    split <;> simp
  · rename_i notSigma
    exact isSmall_of_mem_lowerChar notSigma member

theorem isSmall_of_mem_lowerFrom {small : Char} (member : small ∈ lowerFrom inWord text) :
    isSmall small = true := by
  induction text generalizing inWord with
  | nil => cases member
  | cons head rest ih =>
      rw [lowerFrom_cons] at member
      rcases List.mem_append.mp member with first | later
      · exact isSmall_of_mem_lowerHead first
      · exact ih later

theorem flatMap_lowerChar_of_isSmall (small : ∀ char ∈ text, isSmall char = true) :
    text.flatMap lowerChar = text := by
  induction text with
  | nil => rfl
  | cons head rest ih =>
      have headSmall := isSmall_iff.mp (small head List.mem_cons_self)
      rw [List.flatMap_cons, headSmall.2,
        ih fun char member => small char (List.mem_cons_of_mem head member)]
      rfl

/-- A small character stays in the small form of a text. -/
theorem mem_lowerFrom_of_isSmall (small : isSmall char = true) (member : char ∈ text) :
    char ∈ lowerFrom inWord text := by
  induction text generalizing inWord with
  | nil => cases member
  | cons head tail ih =>
      rw [lowerFrom_cons]
      rcases List.mem_cons.mp member with rfl | later
      · rcases isSmall_iff.mp small with ⟨notSigma, same⟩
        simp [lowerHead, notSigma, same]
      · exact List.mem_append_right _ (ih later)

theorem head_lowerFrom_of_isSmall (inWord : Bool) (small : isSmall char = true)
    (isHead : text.head? = some char) : (lowerFrom inWord text).head? = some char := by
  rcases isSmall_iff.mp small with ⟨notSigma, same⟩
  cases text with
  | nil => cases isHead
  | cons head rest =>
      cases isHead
      simp [lowerFrom_cons, lowerHead, notSigma, same]

/-! ## Characters that are no small forms -/

/-- A character that is the small form of no other character. -/
def isUnreached (char : Char) : Bool :=
  !List.contains ['\x00', 'i', '\u0307', 'ς', 'σ'] char && caseRuns.all (!·.reaches char.toNat)

theorem isUnreached_iff : isUnreached char = true ↔
    char ∉ ['\x00', 'i', '\u0307', 'ς', 'σ'] ∧
      ∀ run ∈ caseRuns, run.reaches char.toNat = false := by
  simp only [isUnreached, Bool.and_eq_true, Bool.not_eq_true', List.all_eq_true,
    List.contains_eq_mem, decide_eq_false_iff_not]

/-- An unreached character is the small form of no other character. -/
theorem eq_of_mem_lowerChar {source : Char} (unreached : isUnreached char = true)
    (member : char ∈ lowerChar source) : source = char := by
  rcases isUnreached_iff.mp unreached with ⟨notSpecial, notReached⟩
  rw [lowerChar] at member
  split at member
  · have isDotted : char = 'i' ∨ char = '\u0307' := by simpa using member
    exact absurd (by rcases isDotted with rfl | rfl <;> simp) notSpecial
  · rename_i notDotted
    have char_eq := List.mem_singleton.mp member
    rcases simpleLower_cases notDotted with ⟨stays, -⟩ | ⟨run, listed, holds, moved⟩
    · rw [stays, Char.ofNat_toNat] at char_eq
      exact char_eq.symm
    · have reached := CaseRun.reaches_of_holds listed holds
      rw [← moved] at reached
      rcases ofNat_eq_zero_or_toNat (simpleLower source.toNat) with invalid | valid
      · rw [← char_eq] at invalid
        exact absurd (by simp [invalid]) notSpecial
      · rw [← valid, ← char_eq, notReached run listed] at reached
        cases reached

theorem eq_of_mem_lowerHead {isFinal : Bool} {head : Char} (unreached : isUnreached char = true)
    (member : char ∈ lowerHead isFinal head) : head = char := by
  rw [lowerHead] at member
  split at member
  · have isForm : char = 'ς' ∨ char = 'σ' := by
      rw [List.mem_singleton.mp member]
      split <;> simp
    exact absurd (by rcases isForm with rfl | rfl <;> simp) (isUnreached_iff.mp unreached).1
  · exact eq_of_mem_lowerChar unreached member

/-- An unreached character in the small form of a text stood in the text. -/
theorem mem_of_mem_lowerFrom (unreached : isUnreached char = true)
    (member : char ∈ lowerFrom inWord text) : char ∈ text := by
  induction text generalizing inWord with
  | nil => cases member
  | cons head rest ih =>
      rw [lowerFrom_cons] at member
      rcases List.mem_append.mp member with first | later
      · rw [eq_of_mem_lowerHead unreached first]
        exact List.mem_cons_self
      · exact List.mem_cons_of_mem head (ih later)

/-- A character at the front of a lowered text stood there before. -/
theorem head_of_head_lowerFrom (unreached : isUnreached char = true)
    (isHead : (lowerFrom inWord text).head? = some char) : text.head? = some char := by
  cases text with
  | nil => cases isHead
  | cons head rest =>
      rw [lowerFrom_cons] at isHead
      cases small : lowerHead (inWord && !startsCased rest) head with
      | nil => exact absurd small (lowerHead_ne_nil _ _)
      | cons first others =>
          rw [small] at isHead
          cases isHead
          have member : char ∈ lowerHead (inWord && !startsCased rest) head := by simp [small]
          exact congrArg some (eq_of_mem_lowerHead unreached member)

theorem lowerFrom_ne_nil (inWord : Bool) (nonempty : text ≠ []) : lowerFrom inWord text ≠ [] := by
  cases text with
  | nil => exact absurd rfl nonempty
  | cons head rest =>
      rw [lowerFrom_cons]
      exact List.append_ne_nil_of_left_ne_nil (lowerHead_ne_nil _ _) _

/-- A character at the end of a lowered text stood there before. -/
theorem getLast_of_getLast_lowerFrom (unreached : isUnreached char = true)
    (isLast : (lowerFrom inWord text).getLast? = some char) : text.getLast? = some char := by
  induction text generalizing inWord with
  | nil => cases isLast
  | cons head tail ih =>
      rw [lowerFrom_cons] at isLast
      cases shape : tail with
      | nil =>
          rw [shape, lowerFrom, List.append_nil] at isLast
          have member := List.mem_of_getLast? isLast
          rw [eq_of_mem_lowerHead unreached member]
          rfl
      | cons second others =>
          rw [List.getLast?_append_of_ne_nil _ (lowerFrom_ne_nil _ (by simp [shape]))] at isLast
          rw [← shape, List.getLast?_cons, ih isLast]
          rfl

/-- A character at the end of a text stays there when it is small. -/
theorem getLast_lowerFrom_of_isSmall (small : isSmall char = true)
    (isLast : text.getLast? = some char) : (lowerFrom inWord text).getLast? = some char := by
  rcases isSmall_iff.mp small with ⟨notSigma, same⟩
  induction text generalizing inWord with
  | nil => cases isLast
  | cons head tail ih =>
      cases shape : tail with
      | nil =>
          have isHead : head = char := by simpa [shape] using isLast
          simp [lowerFrom, isHead, notSigma, same]
      | cons second others =>
          have nonempty : tail ≠ [] := by simp [shape]
          rw [← shape, lowerFrom_cons,
            List.getLast?_append_of_ne_nil _ (lowerFrom_ne_nil _ nonempty)]
          apply ih
          rwa [← List.singleton_append, List.getLast?_append_of_ne_nil _ nonempty] at isLast

/-! ## Characters that lowering leaves alone -/

/-- Neither a character of the run nor its small form lies in a range of code points. -/
def CaseRun.avoidsRange (run : CaseRun) (low high : Nat) : Bool :=
  (Nat.blt run.last low || Nat.blt high run.first) &&
    (decide (run.last + run.offset < low) || decide (high < run.first + run.offset))

/-- No character moves into or out of the range, and no character in it makes a word. -/
def isStillRange (low high : Nat) : Bool :=
  caseRuns.all (·.avoidsRange low high) &&
    casedRanges.all (fun range => Nat.blt range.2 low || Nat.blt high range.1) &&
    ['\x00', 'i', '\u0307', 'ς', 'σ', 'Σ', 'İ'].all fun char =>
      Nat.blt char.toNat low || Nat.blt high char.toNat

/-- Ranges of signs and blanks. -/
def stillRanges : List (Nat × Nat) := [
  (0x01, 0x40), (0x5B, 0x60), (0x7B, 0xA0), (0x1680, 0x1680), (0x2000, 0x205F), (0x2100, 0x2101),
  (0x2105, 0x2106), (0x2A74, 0x2A74), (0x3000, 0x3000), (0xFE13, 0xFE6B), (0xFF03, 0xFF20)]

/-- A sign or a blank that has nothing to do with case. -/
def isStill (char : Char) : Bool :=
  inRanges stillRanges char.toNat

theorem isStill_iff : isStill char = true ↔
    ∃ range ∈ stillRanges, range.1 ≤ char.toNat ∧ char.toNat ≤ range.2 :=
  inRanges_eq_true_iff stillRanges char.toNat

theorem stillRanges_still : (stillRanges.all fun range => isStillRange range.1 range.2) = true := by
  decide +kernel

/-- A still character lies in a range that no run touches and that has no cased character. -/
theorem exists_stillRange (still : isStill char = true) :
    ∃ low high, low ≤ char.toNat ∧ char.toNat ≤ high ∧
      (∀ run ∈ caseRuns, run.avoidsRange low high = true) ∧
      (∀ range ∈ casedRanges, range.2 < low ∨ high < range.1) ∧
      ∀ special ∈ ['\x00', 'i', '\u0307', 'ς', 'σ', 'Σ', 'İ'], special ≠ char := by
  rcases isStill_iff.mp still with ⟨range, listed, least, greatest⟩
  have stillRange := List.all_eq_true.mp stillRanges_still range listed
  simp only [isStillRange, Bool.and_eq_true, List.all_eq_true, Bool.or_eq_true, Nat.blt_eq]
    at stillRange
  refine ⟨range.1, range.2, least, greatest, stillRange.1.1, stillRange.1.2, ?_⟩
  rintro special isSpecial rfl
  have outside := stillRange.2 special isSpecial
  omega

theorem isSmall_of_isStill (still : isStill char = true) : isSmall char = true := by
  rcases exists_stillRange still with ⟨low, high, least, greatest, avoid, -, notSpecial⟩
  have notDotted : char.toNat ≠ 0x130 := by
    intro dotted
    exact notSpecial 'İ' (by simp) (Char.toNat_inj.mp dotted).symm
  refine isSmall_iff.mpr ⟨(notSpecial 'Σ' (by simp)).symm, lowerChar_eq_self notDotted ?_⟩
  intro run listed
  have outside := avoid run listed
  simp only [CaseRun.avoidsRange, Bool.and_eq_true, Bool.or_eq_true, Nat.blt_eq] at outside
  rw [Bool.eq_false_iff]
  intro holds
  simp only [CaseRun.holds, Bool.and_eq_true, decide_eq_true_eq] at holds
  omega

theorem isUnreached_of_isStill (still : isStill char = true) : isUnreached char = true := by
  rcases exists_stillRange still with ⟨low, high, least, greatest, avoid, -, notSpecial⟩
  refine isUnreached_iff.mpr ⟨?_, ?_⟩
  · intro isSpecial
    exact notSpecial char (List.mem_append_left ['Σ', 'İ'] isSpecial) rfl
  · intro run listed
    have outside := avoid run listed
    simp only [CaseRun.avoidsRange, Bool.and_eq_true, Bool.or_eq_true, decide_eq_true_eq] at outside
    rw [Bool.eq_false_iff]
    intro reached
    simp only [CaseRun.reaches, CaseRun.holds, Bool.and_eq_true, decide_eq_true_eq] at reached
    omega

theorem isStill_of_isBlank (blank : isBlank char = true) : isStill char = true := by
  simp only [isBlank, Bool.or_eq_true, Bool.and_eq_true, decide_eq_true_eq, beq_iff_eq] at blank
  rw [isStill_iff]
  simp only [stillRanges, List.exists_mem_cons_iff]
  omega

theorem isStill_of_isDigit (digit : char.isDigit = true) : isStill char = true := by
  have range := (isDigit_iff char).mp digit
  refine isStill_iff.mpr ⟨(0x01, 0x40), by simp [stillRanges], ?_, ?_⟩
  · simp only
    omega
  · simp only
    omega

/-! ## What stands in front -/

/-- Whether a cased character stands in front of what follows a text. -/
def inWordAfter (inWord : Bool) (text : Text) : Bool :=
  text.foldl (fun inWord char => if isCaseIgnorable char then inWord else isCased char) inWord

/-- A text without capital sigmas is lowered character by character. -/
theorem lowerFrom_append (inWord : Bool) (noSigma : 'Σ' ∉ front) (rest : Text) :
    lowerFrom inWord (front ++ rest) =
      front.flatMap lowerChar ++ lowerFrom (inWordAfter inWord front) rest := by
  induction front generalizing inWord with
  | nil => rfl
  | cons head tail ih =>
      rw [List.mem_cons, not_or] at noSigma
      rw [List.cons_append, lowerFrom, if_neg (Ne.symm noSigma.1), ih _ noSigma.2,
        List.flatMap_cons, List.append_assoc]
      rfl

/-- A small text stays, whatever stands behind it. -/
theorem lowerFrom_append_of_isSmall (inWord : Bool) (small : ∀ char ∈ front, isSmall char = true)
    (rest : Text) :
    lowerFrom inWord (front ++ rest) = front ++ lowerFrom (inWordAfter inWord front) rest := by
  have noSigma : 'Σ' ∉ front := fun member => (isSmall_iff.mp (small 'Σ' member)).1 rfl
  rw [lowerFrom_append inWord noSigma, flatMap_lowerChar_of_isSmall small]

theorem lowerFrom_of_isSmall (inWord : Bool) (small : ∀ char ∈ text, isSmall char = true) :
    lowerFrom inWord text = text := by
  have kept := lowerFrom_append_of_isSmall inWord small []
  rwa [List.append_nil, lowerFrom, List.append_nil] at kept

/-- The number of characters of a lowered text does not depend on what stands around it. -/
theorem length_lowerFrom (inWord : Bool) (text : Text) :
    (lowerFrom inWord text).length = (text.flatMap lowerChar).length := by
  induction text generalizing inWord with
  | nil => rfl
  | cons head rest ih =>
      rw [lowerFrom, List.flatMap_cons, List.length_append, List.length_append, ih]
      split
      · rename_i isSigma
        have one : (lowerChar 'Σ').length = 1 := rfl
        rw [isSigma, one]
        rfl
      · rfl

theorem length_lower_append (text rest : Text) :
    (lower (text ++ rest)).length = (lower text).length + (lower rest).length := by
  simp only [lower, length_lowerFrom, List.flatMap_append, List.length_append]

theorem length_lower_le_of_isInfix (isInfix : front <:+: text) :
    (lower front).length ≤ (lower text).length := by
  rcases isInfix with ⟨earlier, later, rfl⟩
  rw [length_lower_append, length_lower_append]
  omega

theorem startsCased_append_of_not (text : Text) (notCased : startsCased rest = false) :
    startsCased (text ++ rest) = startsCased text := by
  induction text with
  | nil => simp [startsCased, notCased]
  | cons head tail ih => simp [startsCased, ih]

theorem startsCased_append (text rest : Text) (notSkipped : isCaseIgnorable mark = false)
    (notCased : isCased mark = false) : startsCased (text ++ mark :: rest) = startsCased text := by
  apply startsCased_append_of_not
  simp [startsCased, notSkipped, notCased]

/-- A mark that is not skipped and not cased separates what stands on both sides of it. -/
theorem lowerFrom_append_cons (inWord : Bool) (text rest : Text)
    (notSkipped : isCaseIgnorable mark = false) (notCased : isCased mark = false)
    (notSigma : mark ≠ 'Σ') :
    lowerFrom inWord (text ++ mark :: rest) = lowerFrom inWord text ++ lower (mark :: rest) := by
  induction text generalizing inWord with
  | nil => simp [lower, lowerFrom, notSkipped, notCased, notSigma]
  | cons head tail ih =>
      rw [List.cons_append, lowerFrom, lowerFrom, ih, startsCased_append _ _ notSkipped notCased,
        List.append_assoc]

/-- Whether the first character that is not skipped is a capital sigma that ends a word. -/
def startsFinalSigma : Text → Bool
  | [] => false
  | head :: rest =>
    if isCaseIgnorable head then startsFinalSigma rest else head == 'Σ' && !startsCased rest

/-- What stands in front of a text matters exactly if the text begins with a final sigma. -/
theorem lowerFrom_true_eq_false_iff (text : Text) :
    lowerFrom true text = lowerFrom false text ↔ startsFinalSigma text = false := by
  induction text with
  | nil => simp [lowerFrom, startsFinalSigma]
  | cons head rest ih =>
      rw [lowerFrom_cons, lowerFrom_cons, startsFinalSigma]
      by_cases skipped : isCaseIgnorable head = true
      · have notSigma : head ≠ 'Σ' := by
          rintro rfl
          have counted : isCaseIgnorable 'Σ' = false := by decide +kernel
          rw [counted] at skipped
          cases skipped
        rw [if_pos skipped, if_pos skipped, if_pos skipped, lowerHead, lowerHead, if_neg notSigma,
          if_neg notSigma, List.append_cancel_left_eq, ih]
      · rw [if_neg skipped, if_neg skipped, if_neg skipped, List.append_cancel_right_eq]
        by_cases isSigma : head = 'Σ'
        · cases cased : startsCased rest <;> simp [lowerHead, isSigma]
        · simp [lowerHead, isSigma]

/-- What stands in front of a text makes a difference to the first sigma only. -/
theorem lowerFrom_eq_lower_iff (inWord : Bool) (text : Text) :
    lowerFrom inWord text = lower text ↔ (inWord = true → startsFinalSigma text = false) := by
  cases inWord with
  | false => simp [lower]
  | true => simpa [lower] using lowerFrom_true_eq_false_iff text

/-! ## Characters without case -/

/-- A character that lowering keeps and that does not make a word. -/
def isCaseless (char : Char) : Bool :=
  isSmall char && !isCased char

theorem isCaseless_of_isStill (still : isStill char = true) : isCaseless char = true := by
  rcases exists_stillRange still with ⟨low, high, least, greatest, -, apart, -⟩
  have uncased : isCased char = false := by
    rw [isCased, Bool.eq_false_iff]
    intro inCased
    rcases (inRanges_eq_true_iff _ _).mp inCased with ⟨cased, listed, first, last⟩
    have different := apart cased listed
    omega
  rw [isCaseless, isSmall_of_isStill still, uncased]
  rfl

theorem startsCased_of_isCaseless (caseless : ∀ char ∈ text, isCaseless char = true) :
    startsCased text = false := by
  induction text with
  | nil => rfl
  | cons head tail ih =>
      have headCaseless := caseless head List.mem_cons_self
      have later := ih fun char member => caseless char (List.mem_cons_of_mem head member)
      simp only [isCaseless, Bool.and_eq_true, Bool.not_eq_true'] at headCaseless
      simp [startsCased, later, headCaseless.2]

/-- What has no case stays behind a text, and does not change how the text is lowered. -/
theorem lowerFrom_append_of_isCaseless (inWord : Bool) (text : Text)
    (caseless : ∀ char ∈ rest, isCaseless char = true) :
    lowerFrom inWord (text ++ rest) = lowerFrom inWord text ++ rest := by
  induction text generalizing inWord with
  | nil =>
      apply lowerFrom_of_isSmall
      intro char member
      have headCaseless := caseless char member
      rw [isCaseless, Bool.and_eq_true] at headCaseless
      exact headCaseless.1
  | cons head tail ih =>
      have uncased := startsCased_append_of_not tail (startsCased_of_isCaseless caseless)
      rw [List.cons_append, lowerFrom_cons, lowerFrom_cons, ih, uncased, List.append_assoc]

end Text

end SignOnGate
