import SignOnGate.Proofs.Query
import SignOnGate.Proofs.Url.Host

/-!
# Address literals in small letters

The host of an authority is read in small letters. For an address in brackets this makes no
difference to what it is: capital digits and small digits write the same groups, the zone is kept as
it stands, and a literal of a future version keeps its version and something behind it.
-/

namespace SignOnGate

namespace Url

open Text

variable {text address host : Text} {char mark : Char} {groups : List Text}

/-! ## Characters -/

theorem isDigit_toLower (char : Char) : char.toLower.isDigit = char.isDigit := by
  rw [Bool.eq_iff_iff, isDigit_iff, isDigit_iff, toNat_toLower]
  split <;> omega

theorem isHexDigit_toLower (char : Char) : isHexDigit char.toLower = isHexDigit char := by
  rw [Bool.eq_iff_iff, isHexDigit_iff, isHexDigit_iff, toNat_toLower]
  split <;> omega

theorem toLower_of_isDigit (digit : char.isDigit = true) : char.toLower = char := by
  have range := (isDigit_iff char).mp digit
  apply Char.toNat_inj.mp
  rw [toNat_toLower, if_neg]
  omega

/-- No letter becomes a mark that stands in front of the letters. -/
theorem toLower_eq_iff (below : mark.toNat < 0x41) (char : Char) :
    char.toLower = mark ↔ char = mark := by
  rw [← Char.toNat_inj, ← Char.toNat_inj, toNat_toLower]
  split <;> omega

theorem lowerAscii_of_isDigit (digits : ∀ char ∈ text, char.isDigit = true) :
    lowerAscii text = text := by
  rw [lowerAscii, List.map_congr_left fun char member => toLower_of_isDigit (digits char member),
    List.map_id']

/-! ## Groups -/

/-- Letter case does not move a mark from below the letters. -/
theorem pieces_lowerAscii (below : mark.toNat < 0x41) (text : Text) :
    pieces mark (lowerAscii text) = (pieces mark text).map lowerAscii := by
  induction text with
  | nil => rfl
  | cons head rest ih =>
      rw [lowerAscii] at ih
      rw [lowerAscii, List.map_cons, pieces, pieces]
      have kept := toLower_eq_iff below head
      by_cases isMark : head = mark
      · rw [if_pos isMark, if_pos (kept.mpr isMark), ih]
        rfl
      · rw [if_neg isMark, if_neg (mt kept.mp isMark), ih]
        cases pieces mark rest <;> rfl

theorem isOctet_lowerAscii (text : Text) : isOctet (lowerAscii text) = isOctet text := by
  cases digits : text.all Char.isDigit with
  | true => rw [lowerAscii_of_isDigit (List.all_eq_true.mp digits)]
  | false =>
      have lowered : (lowerAscii text).all Char.isDigit = false := by
        simpa [lowerAscii, List.all_map, Function.comp_def, isDigit_toLower] using digits
      simp [isOctet, digits, lowered]

theorem isIpv4_lowerAscii (text : Text) : isIpv4 (lowerAscii text) = isIpv4 text := by
  have below : '.'.toNat < 0x41 := by decide
  simp [isIpv4, pieces_lowerAscii below, Function.comp_def, isOctet_lowerAscii]

theorem isHextet_lowerAscii (text : Text) : isHextet (lowerAscii text) = isHextet text := by
  simp [isHextet, lowerAscii, Function.comp_def, isHexDigit_toLower]

theorem gapSide_map (groups : List Text) :
    gapSide (groups.map lowerAscii) = (gapSide groups).map lowerAscii := by
  have lone : groups.map lowerAscii = [[]] ↔ groups = [[]] := by
    cases groups with
    | nil => simp
    | cons first others => simp [lowerAscii]
  by_cases isLone : groups = [[]]
  · simp [gapSide, isLone, lowerAscii]
  · rw [gapSide, gapSide, if_neg isLone, if_neg (mt lone.mp isLone)]

/-- Letter case does not matter to the groups of an address. -/
theorem areIpv6Groups_map (groups : List Text) :
    areIpv6Groups (groups.map lowerAscii) = areIpv6Groups groups := by
  have empty : List.isEmpty ∘ lowerAscii = List.isEmpty := by
    funext text
    simp [lowerAscii]
  have gap : (((groups.map lowerAscii).drop 1).dropLast).findIdx? List.isEmpty =
      ((groups.drop 1).dropLast).findIdx? List.isEmpty := by
    rw [← List.map_drop, ← List.map_dropLast, List.findIdx?_map, empty]
  rw [areIpv6Groups, areIpv6Groups, gap]
  split
  · simp only [← List.map_take, ← List.map_drop, gapSide_map, List.all_map, List.length_map,
      Function.comp_def, isHextet_lowerAscii]
  · simp [Function.comp_def, isHextet_lowerAscii]

theorem ipv6Groups_lowerAscii (address : Text) :
    ipv6Groups (lowerAscii address) = (ipv6Groups address).map lowerAscii := by
  have zero : lowerAscii ['0'] = ['0'] := by decide
  have below : ':'.toNat < 0x41 := by decide
  rw [ipv6Groups, ipv6Groups, pieces_lowerAscii below, List.getLast?_map]
  cases (pieces ':' address).getLast? with
  | none => rfl
  | some last =>
      simp only [Option.map_some, isIpv4_lowerAscii]
      split <;> simp [List.map_dropLast, zero]

/-! ## What an address is made of -/

/-- A character of an address without a zone. -/
def isAddressChar (char : Char) : Bool :=
  isHexDigit char || char == ':' || char == '.'

theorem isDigit_or_dot_of_isIpv4 (dotted : isIpv4 text = true) :
    ∀ char ∈ text, char.isDigit = true ∨ char = '.' := by
  intro char member
  simp only [isIpv4, Bool.and_eq_true, List.all_eq_true] at dotted
  rcases mem_pieces '.' member with isDot | ⟨piece, isPiece, inPiece⟩
  · exact Or.inr isDot
  · have octet := dotted.2 piece isPiece
    simp only [isOctet, Bool.and_eq_true, List.all_eq_true] at octet
    exact Or.inl (octet.1.1.1.2 char inPiece)

theorem isHexDigit_of_isDigit (digit : char.isDigit = true) : isHexDigit char = true := by
  rw [isHexDigit_iff]
  exact Or.inl ((isDigit_iff char).mp digit)

theorem mem_gapSide {group : Text} (member : group ∈ groups) :
    group = [] ∨ group ∈ gapSide groups := by
  rw [gapSide]
  split
  · rename_i lone
    rw [lone] at member
    exact Or.inl (List.mem_singleton.mp member)
  · exact Or.inr member

/-- The groups of an address are hexadecimal numbers, or empty at a gap. -/
theorem eq_nil_or_isHextet (areGroups : areIpv6Groups groups = true) :
    ∀ group ∈ groups, group = [] ∨ isHextet group = true := by
  intro group member
  rw [areIpv6Groups] at areGroups
  split at areGroups
  · rename_i index found
    simp only [Bool.and_eq_true, List.all_eq_true] at areGroups
    rcases areGroups with ⟨⟨high, low⟩, -⟩
    rw [← List.take_append_drop (index + 1) groups] at member
    rcases List.mem_append.mp member with inHigh | behind
    · exact (mem_gapSide inHigh).imp_right (high group)
    · have gap := List.findIdx?_eq_some_iff_getElem.mp found
      rcases gap with ⟨bound, isGap, -⟩
      simp only [List.length_dropLast, List.length_drop] at bound
      rw [List.drop_eq_getElem_cons (by omega)] at behind
      rcases List.mem_cons.mp behind with rfl | inLow
      · left
        simpa [Nat.add_comm] using isGap
      · exact (mem_gapSide inLow).imp_right (low group)
  · simp only [Bool.and_eq_true, List.all_eq_true] at areGroups
    exact Or.inr (areGroups.2 group member)

theorem mem_ipv6Groups {piece : Text} (member : piece ∈ pieces ':' address) :
    piece ∈ ipv6Groups address ∨ isIpv4 piece = true := by
  simp only [ipv6Groups]
  split
  · rename_i last isLast
    rw [← List.dropLast_append_getLast? last isLast] at member
    split
    · rename_i dotted
      rcases List.mem_append.mp member with front | same
      · exact Or.inl (List.mem_append_left _ front)
      · right
        rwa [List.mem_singleton.mp same]
    · left
      rwa [← List.dropLast_append_getLast? last isLast]
  · exact Or.inl member

/-- An address consists of hexadecimal digits, colons and dots. -/
theorem isAddressChar_of_areIpv6Groups (areGroups : areIpv6Groups (ipv6Groups address) = true) :
    ∀ char ∈ address, isAddressChar char = true := by
  intro char member
  rcases mem_pieces ':' member with rfl | ⟨piece, isPiece, inPiece⟩
  · decide
  · rcases mem_ipv6Groups isPiece with isGroup | dotted
    · rcases eq_nil_or_isHextet areGroups piece isGroup with rfl | hextet
      · cases inPiece
      · simp only [isHextet, Bool.and_eq_true, List.all_eq_true] at hextet
        simp [isAddressChar, hextet.1.2 char inPiece]
    · rcases isDigit_or_dot_of_isIpv4 dotted char inPiece with digit | rfl
      · simp [isAddressChar, isHexDigit_of_isDigit digit]
      · decide

theorem colon_of_areIpv6Groups (areGroups : areIpv6Groups (ipv6Groups address) = true) :
    ':' ∈ address := by
  by_contra noColon
  simp only [ipv6Groups, pieces_of_not_mem noColon, List.getLast?_singleton] at areGroups
  split at areGroups
  · simp [areIpv6Groups] at areGroups
  · simp [areIpv6Groups] at areGroups

theorem isAscii_of_isAddressChar (addressChar : isAddressChar char = true) :
    isAscii char = true := by
  simp only [isAddressChar, Bool.or_eq_true, beq_iff_eq] at addressChar
  rcases addressChar with (hexadecimal | rfl) | rfl
  · exact isAscii_of_isHexDigit hexadecimal
  · decide
  · decide

theorem isIpv6_eq_true_iff :
    isIpv6 host = true ↔ areIpv6Groups (ipv6Groups (before '%' host)) = true ∧
    ('%' ∈ host → after '%' host ≠ [] ∧ '%' ∉ after '%' host) := by
  simp [isIpv6, Classical.or_iff_not_imp_left]

theorem colon_of_isIpv6 (address : isIpv6 host = true) : ':' ∈ host :=
  mem_of_mem_before (colon_of_areIpv6Groups (isIpv6_eq_true_iff.mp address).1)

/-- The form of an address of a future version. -/
theorem isFutureAddress_eq_true_iff : isFutureAddress host = true ↔
    ∃ version behind, host = 'v' :: (version ++ '.' :: behind) ∧ version ≠ [] ∧
      (∀ char ∈ version, isHexDigit char = true) ∧ behind ≠ [] := by
  constructor
  · intro future
    unfold isFutureAddress at future
    split at future
    · rename_i rest
      simp only [Bool.and_eq_true, Bool.not_eq_true', List.isEmpty_eq_false_iff, List.all_eq_true]
        at future
      rcases future with ⟨⟨version_ne_nil, hexadecimal⟩, behind_ne_nil⟩
      have dot : '.' ∈ rest := by
        by_contra noDot
        exact behind_ne_nil (after_of_not_mem noDot)
      refine ⟨before '.' rest, after '.' rest, ?_, version_ne_nil, hexadecimal, behind_ne_nil⟩
      rw [before_append_after dot]
    · cases future
  · rintro ⟨version, behind, rfl, version_ne_nil, hexadecimal, behind_ne_nil⟩
    have noDot : '.' ∉ version := fun member => absurd (hexadecimal '.' member) (by decide)
    simp only [isFutureAddress, before_append_of_mem _ _ _ noDot, after_append_of_mem _ _ _ noDot,
      Bool.and_eq_true, Bool.not_eq_true', List.isEmpty_eq_false_iff, List.all_eq_true]
    exact ⟨⟨version_ne_nil, hexadecimal⟩, behind_ne_nil⟩

/-- A host is accepted in brackets as an address or as a literal of a future version. -/
theorem checkBracketedHost_eq_ok_iff :
    checkBracketedHost host = .ok () ↔ isFutureAddress host = true ∨ isIpv6 host = true := by
  constructor
  · intro checked
    rw [checkBracketedHost] at checked
    split at checked
    · split at checked
      · exact Or.inl ‹_›
      · cases checked
    · split at checked
      · cases checked
      · split at checked
        · exact Or.inr ‹_›
        · cases checked
  · rintro (future | address)
    · have isHead : host.head? = some 'v' := by
        rcases isFutureAddress_eq_true_iff.mp future with ⟨version, behind, rfl, -⟩
        rfl
      rw [checkBracketedHost, if_pos isHead, if_pos future]
    · have notDotted : ¬isIpv4 host = true := by
        intro dotted
        rcases isDigit_or_dot_of_isIpv4 dotted ':' (colon_of_isIpv6 address) with digit | same
        · cases digit
        · cases same
      have noHead : host.head? ≠ some 'v' := by
        intro isHead
        have areGroups := (isIpv6_eq_true_iff.mp address).1
        have inAddress : 'v' ∈ before '%' host := by
          cases host with
          | nil => cases isHead
          | cons head rest =>
              cases isHead
              simp [before]
        have addressChar := isAddressChar_of_areIpv6Groups areGroups 'v' inAddress
        exact absurd addressChar (by decide)
      rw [checkBracketedHost, if_neg noHead, if_neg notDotted, if_pos address]

/-! ## Small letters -/

/-- An address is one in small letters too. -/
theorem isIpv6_lowerHost (address : isIpv6 host = true) : isIpv6 (lowerHost host) = true := by
  rcases isIpv6_eq_true_iff.mp address with ⟨areGroups, zone⟩
  have ascii : ∀ char ∈ before '%' host, isAscii char = true := fun char member =>
    isAscii_of_isAddressChar (isAddressChar_of_areIpv6Groups areGroups char member)
  have sameZone : after '%' (lowerHost host) = after '%' host := by
    rw [after, after, dropWhile_lowerHost]
  refine isIpv6_eq_true_iff.mpr ⟨?_, ?_⟩
  · rw [before_lowerHost, lower_of_ascii ascii, ipv6Groups_lowerAscii, areIpv6Groups_map]
    exact areGroups
  · intro percent
    rw [sameZone]
    exact zone (mem_of_mem_lowerHost (isUnreached_of_isStill (by decide)) percent)

theorem isFutureAddress_lowerHost (future : isFutureAddress host = true) :
    isFutureAddress (lowerHost host) = true := by
  rcases isFutureAddress_eq_true_iff.mp future with
    ⟨version, behind, host_eq, version_ne_nil, hexadecimal, behind_ne_nil⟩
  have grouped : host = ('v' :: (version ++ ['.'])) ++ behind := by simp [host_eq]
  have ascii : ∀ char ∈ 'v' :: (version ++ ['.']), isAscii char = true := by
    intro char member
    simp only [List.mem_cons, List.mem_append, List.not_mem_nil, or_false] at member
    rcases member with rfl | inVersion | rfl
    · decide
    · exact isAscii_of_isHexDigit (hexadecimal char inVersion)
    · decide
  have noSigma : 'Σ' ∉ 'v' :: (version ++ ['.']) :=
    fun sigma => absurd (ascii 'Σ' sigma) (by decide)
  have noPercent : '%' ∉ 'v' :: (version ++ ['.']) := by
    have noHexDigit : '%' ∉ version := fun percent => absurd (hexadecimal '%' percent) (by decide)
    simp [noHexDigit]
  have lowered := lowerHost_append noPercent noSigma behind
  rw [← grouped, flatMap_lowerChar_of_ascii ascii] at lowered
  refine isFutureAddress_eq_true_iff.mpr ⟨lowerAscii version,
    lowerHostFrom (inWordAfter false ('v' :: (version ++ ['.']))) behind, ?_, ?_, ?_, ?_⟩
  · simpa [lowerAscii] using lowered
  · simpa [lowerAscii] using version_ne_nil
  · intro char member
    rcases List.mem_map.mp member with ⟨source, inVersion, rfl⟩
    rw [isHexDigit_toLower]
    exact hexadecimal source inVersion
  · exact lowerHostFrom_ne_nil _ behind_ne_nil

theorem checkBracketedHost_lowerHost (checked : checkBracketedHost host = .ok ()) :
    checkBracketedHost (lowerHost host) = .ok () := by
  rw [checkBracketedHost_eq_ok_iff] at checked ⊢
  exact checked.imp isFutureAddress_lowerHost isIpv6_lowerHost

end Url

end SignOnGate
