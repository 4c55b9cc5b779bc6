import SignOnGate.Proofs.Text.Lower
import SignOnGate.Proofs.Url.Absolute
import SignOnGate.Text.Percent

/-!
# Texts without tabs and line ends

A text is quiet when it has none of the characters that splitting drops wherever they stand: tabs,
carriage returns and line feeds. The parts of every split are quiet, small letters are never such
characters, and neither are the characters of a percent-encoded text. So what is put together from
quiet parts and encoded text is quiet.
-/

namespace SignOnGate

open Text Url

/-- A text has no tab, no carriage return and no line feed. -/
def Quiet (text : Text) : Prop :=
  ∀ char ∈ text, isInnerNoise char = false

/-- A URL all of whose parts are quiet. -/
structure Url.Quiet (url : Url) : Prop where
  scheme : SignOnGate.Quiet url.scheme
  authority : SignOnGate.Quiet url.authority
  path : SignOnGate.Quiet url.path
  query : SignOnGate.Quiet url.query
  fragment : SignOnGate.Quiet url.fragment

variable {text first second : Text} {char : Char}

/-! ## Characters that are no noise -/

/-- A character of a class that leaves the three noises out is none of them. -/
theorem Url.isInnerNoise_of_class (kind : Char → Prop) (noTab : ¬kind '\t') (noReturn : ¬kind '\r')
    (noFeed : ¬kind '\n') (member : kind char) : isInnerNoise char = false := by
  cases noise : isInnerNoise char with
  | false => rfl
  | true =>
      simp only [isInnerNoise, Bool.or_eq_true, beq_iff_eq] at noise
      rcases noise with (rfl | rfl) | rfl
      · exact absurd member noTab
      · exact absurd member noReturn
      · exact absurd member noFeed

theorem Url.isInnerNoise_of_space_le (printable : 0x20 ≤ char.toNat) :
    isInnerNoise char = false := by
  refine isInnerNoise_of_class (fun char => 0x20 ≤ char.toNat) ?_ ?_ ?_ printable <;> decide

theorem Url.isInnerNoise_of_isUnreserved (unreserved : Percent.isUnreserved char = true) :
    isInnerNoise char = false := by
  refine isInnerNoise_of_class (fun char => Percent.isUnreserved char = true) ?_ ?_ ?_
      unreserved <;>
    decide

theorem Url.isInnerNoise_ofNat_of_space_le {code : Nat} (printable : 0x20 ≤ code) :
    isInnerNoise (Char.ofNat code) = false := by
  by_cases valid : code.isValidChar
  · rw [Char.ofNat, dif_pos valid]
    exact isInnerNoise_of_space_le printable
  · rw [Char.ofNat, dif_neg valid]
    rfl

namespace Quiet

instance (text : Text) : Decidable (Quiet text) :=
  decidable_of_iff (text.all (!isInnerNoise ·) = true) (by simp [Quiet])

theorem nil : Quiet [] := nofun

theorem mono (quiet : Quiet second) (subset : first ⊆ second) : Quiet first :=
  fun char member => quiet char (subset member)

theorem append (quiet : Quiet first) (behind : Quiet second) : Quiet (first ++ second) := by
  intro char member
  rcases List.mem_append.mp member with front | back
  · exact quiet char front
  · exact behind char back

theorem cons (noNoise : isInnerNoise char = false) (quiet : Quiet text) : Quiet (char :: text) := by
  intro other member
  rcases List.mem_cons.mp member with rfl | behind
  · exact noNoise
  · exact quiet other behind

theorem before (quiet : Quiet text) (mark : Char) : Quiet (before mark text) :=
  quiet.mono fun _ => mem_of_mem_before

theorem after (quiet : Quiet text) (mark : Char) : Quiet (after mark text) :=
  quiet.mono fun _ => mem_of_mem_after

theorem afterLast (quiet : Quiet text) (mark : Char) : Quiet (afterLast mark text) :=
  quiet.mono fun _ => mem_of_mem_afterLast

theorem beforeLast (quiet : Quiet text) (mark : Char) : Quiet (beforeLast mark text) :=
  quiet.mono fun _ => mem_of_mem_beforeLast

theorem marked (noNoise : isInnerNoise char = false) (quiet : Quiet text) :
    Quiet (marked char text) := by
  rw [Url.marked]
  split
  · exact nil
  · exact quiet.cons noNoise

/-! ## Small letters -/

theorem lowerChar (noNoise : isInnerNoise char = false) : Quiet (lowerChar char) := by
  rw [Text.lowerChar]
  split
  · decide
  · refine cons ?_ nil
    rw [simpleLower]
    split
    · decide
    · split
      · rename_i run found
        have holds := List.find?_some found
        exact isInnerNoise_ofNat_of_space_le
          (CaseRun.space_le_of_holds (List.mem_of_find?_eq_some found) holds)
      · rw [Char.ofNat_toNat]
        exact noNoise

/-- The small form of a quiet text is quiet. -/
theorem lowerFrom (inWord : Bool) (quiet : Quiet text) : Quiet (lowerFrom inWord text) := by
  induction text generalizing inWord with
  | nil => exact nil
  | cons head rest ih =>
      -- a sigma has two small forms, every other character has one
      rw [Text.lowerFrom]
      refine append ?_ (ih _ (quiet.mono (List.subset_cons_self head rest)))
      split
      · split <;> decide
      · exact lowerChar (quiet head List.mem_cons_self)

theorem lower (quiet : Quiet text) : Quiet (lower text) :=
  quiet.lowerFrom false

/-! ## Hosts and ports -/

theorem ofNat (number : Nat) : Quiet (ofNat number) := by
  intro char member
  apply isInnerNoise_of_solid
  exact (isPlainChar_iff.mp (isPlainChar_of_isDigit (isDigit_of_mem_ofNat member))).2.1

theorem rawHost (quiet : Quiet text) : Quiet (rawHost text) := by
  by_cases bracket : '[' ∈ hostPart text
  · simp only [Url.rawHost, if_pos bracket]
    exact ((quiet.afterLast '@').after '[').before ']'
  · simp only [Url.rawHost, if_neg bracket]
    exact (quiet.afterLast '@').before ':'

theorem lowerHost (quiet : Quiet text) : Quiet (lowerHost text) :=
  (quiet.before '%').lower.append (quiet.mono (List.dropWhile_subset _))

theorem authorityOf (quiet : Quiet text) (port : Option Nat) : Quiet (authorityOf text port) := by
  have bracketed : Quiet (if text.contains ':' then '[' :: text ++ [']'] else text) := by
    split
    · exact (quiet.cons (by decide)).append (by decide)
    · exact quiet
  cases port with
  | none => exact bracketed
  | some number => exact bracketed.append ((ofNat number).cons (by decide))

/-! ## Percent encoding -/

theorem encodeByte (byte : UInt8) : Quiet (Percent.encodeByte byte) := by
  have digits : ∀ value < 16, isInnerNoise (Percent.capitalHexDigit value) = false := by decide
  have bound : byte.toNat < 256 := byte.toNat_lt
  refine cons (by decide) (cons (digits _ ?_) (cons (digits _ ?_) nil)) <;> omega

/-- Percent-encoded text is quiet. -/
theorem encode (text : Text) : Quiet (Percent.encode text) := by
  intro char member
  rcases List.mem_flatMap.mp member with ⟨source, -, inSource⟩
  rw [Percent.encodeChar] at inSource
  split at inSource
  · rename_i unreserved
    rw [List.mem_singleton.mp inSource]
    exact isInnerNoise_of_isUnreserved unreserved
  · rcases List.mem_flatMap.mp inSource with ⟨byte, -, inByte⟩
    exact encodeByte byte char inByte

end Quiet

namespace Url

variable {text : Text} {url : Url}

/-! ## Splitting and joining -/

theorem quiet_cleaned (text : Text) : SignOnGate.Quiet (cleaned text) :=
  fun _ => isInnerNoise_of_mem_cleaned

theorem quiet_splitScheme (quiet : SignOnGate.Quiet text) :
    SignOnGate.Quiet (splitScheme text).1 ∧ SignOnGate.Quiet (splitScheme text).2 := by
  rw [splitScheme]
  split
  · rename_i isScheme_before
    rw [Bool.and_eq_true] at isScheme_before
    exact ⟨isInnerNoise_of_mem_scheme (isScheme_lowerAscii isScheme_before.2), quiet.after ':'⟩
  · exact ⟨.nil, quiet⟩

theorem quiet_splitAuthority (quiet : SignOnGate.Quiet text) :
    SignOnGate.Quiet (splitAuthority text).1 ∧ SignOnGate.Quiet (splitAuthority text).2 := by
  unfold splitAuthority
  split
  · rename_i rest
    have behind : SignOnGate.Quiet rest := by
      intro char member
      apply quiet
      simp [member]
    exact ⟨behind.mono (List.takeWhile_subset _), behind.mono (List.dropWhile_subset _)⟩
  · exact ⟨.nil, quiet⟩

/-- The parts of a split are quiet, whatever was split. -/
theorem quiet_of_split (split_text : split text = .ok url) : url.Quiet := by
  have scheme := quiet_splitScheme (quiet_cleaned text)
  have authority := quiet_splitAuthority scheme.2
  simp only [split] at split_text
  split at split_text
  · cases split_text
  · split at split_text
    · cases split_text
    · cases split_text
      exact ⟨scheme.1, authority.1, (authority.2.before '#').before '?',
        (authority.2.before '#').after '?', authority.2.after '#'⟩

/-- A URL with quiet parts is written without noise. -/
theorem Quiet.join (quiet : url.Quiet) : SignOnGate.Quiet url.join := by
  have scheme : SignOnGate.Quiet (if url.scheme.isEmpty then [] else url.scheme ++ [':']) := by
    split
    · exact .nil
    · exact quiet.scheme.append (by decide)
  have hierarchy : SignOnGate.Quiet url.joinedHierarchy := by
    rw [joinedHierarchy]
    split
    · have slash : SignOnGate.Quiet
          (if url.path.isEmpty || url.path.head? == some '/' then [] else ['/']) := by
        split <;> decide
      exact (((quiet.authority.cons (by decide)).cons (by decide)).append slash).append quiet.path
    · exact quiet.path
  exact ((scheme.append hierarchy).append (quiet.query.marked (by decide))).append
    (quiet.fragment.marked (by decide))

theorem Absolute.quiet_of_parse {absolute : Absolute}
    (parsed : Absolute.parse text = .ok absolute) :
    absolute.url.Quiet :=
  quiet_of_split (Absolute.parse_eq_ok parsed).2

theorem Quiet.host {host : Text} (quiet : url.Quiet) (hostname : url.hostname? = some host) :
    SignOnGate.Quiet host := by
  rw [hostname?] at hostname
  split at hostname
  · cases hostname
  · cases hostname
    exact quiet.authority.rawHost.lowerHost

end Url

end SignOnGate
