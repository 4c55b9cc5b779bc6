import SignOnGate.Proofs.Text.Ascii
import SignOnGate.Proofs.Text.Cut
import SignOnGate.Url.Basic

/-!
# Splitting what was written

`Sound` collects what a split establishes for any text with a scheme and an authority. Whatever is
written behind a sound scheme and authority, splitting finds these two again. `Plain` is the case of
a text without blanks and an ASCII authority without brackets. Parts of this kind survive being
written and split again, so that a URL which has been split once reaches a form that no further
round changes.
-/

namespace SignOnGate

namespace Url

open Text

/-- The parts of a URL that was split from a text and has a scheme and an authority. -/
structure Sound (url : Url) : Prop where
  scheme : isScheme url.scheme = true
  scheme_small : lowerAscii url.scheme = url.scheme
  authority_ne_nil : url.authority ≠ []
  authority_inside : ∀ char ∈ url.authority, endsAuthority char = false
  authority_quiet : ∀ char ∈ url.authority, isInnerNoise char = false
  brackets : checkBrackets url.authority = .ok ()
  noHidden : url.authority.any hidesDelimiter = false
  path_start : ∀ char ∈ url.path.head?, char = '/'
  path_noQuery : '?' ∉ url.path
  path_noFragment : '#' ∉ url.path
  path_quiet : ∀ char ∈ url.path, isInnerNoise char = false
  query_noFragment : '#' ∉ url.query
  query_quiet : ∀ char ∈ url.query, isInnerNoise char = false

/-- A scheme and an authority that splitting finds, if it accepts them. -/
structure Shaped (url : Url) : Prop where
  scheme : isScheme url.scheme = true
  scheme_small : lowerAscii url.scheme = url.scheme
  authority_inside : ∀ char ∈ url.authority, endsAuthority char = false
  authority_quiet : ∀ char ∈ url.authority, isInnerNoise char = false

/-- A character of a plain authority. -/
def isPlainChar (char : Char) : Bool :=
  isAscii char && !isBlank char && !endsAuthority char && char != '[' && char != ']'

/-- The parts of a URL that was split from a text without blanks and has a plain authority. -/
structure Plain (url : Url) : Prop where
  scheme : isScheme url.scheme = true
  scheme_small : lowerAscii url.scheme = url.scheme
  authority_ne_nil : url.authority ≠ []
  authority : ∀ char ∈ url.authority, isPlainChar char = true
  path_start : ∀ char ∈ url.path.head?, char = '/'
  path_noQuery : '?' ∉ url.path
  path_noFragment : '#' ∉ url.path
  query_noFragment : '#' ∉ url.query
  path_solid : ∀ char ∈ url.path, isBlank char = false
  query_solid : ∀ char ∈ url.query, isBlank char = false

/-- A URL as a text, with all of its parts but the fragment. -/
def written (url : Url) : Text :=
  url.scheme ++ "://".toList ++ url.authority ++ url.path ++ marked '?' url.query

variable {text : Text} {url : Url} {char mark : Char}

/-! ## Plain authorities -/

theorem isPlainChar_iff :
    isPlainChar char = true ↔ isAscii char = true ∧ isBlank char = false ∧
      endsAuthority char = false ∧ char ≠ '[' ∧ char ≠ ']' := by
  simp [isPlainChar, and_assoc]

theorem isPlainChar_of_isDigit (digit : char.isDigit = true) : isPlainChar char = true :=
  forall_ascii (fun char => char.isDigit = true → isPlainChar char = true) (by decide +kernel)
    (isAscii_of_isDigit digit) digit

theorem hidesDelimiter_of_ascii (ascii : isAscii char = true) : hidesDelimiter char = false :=
  forall_ascii (fun char => hidesDelimiter char = false) (by decide +kernel) ascii

theorem checkBrackets_of_plain {authority : Text}
    (plain : ∀ char ∈ authority, isPlainChar char = true) : checkBrackets authority = .ok () := by
  have noOpening : '[' ∉ authority := by
    intro member
    exact absurd (plain '[' member) (by decide)
  have noClosing : ']' ∉ authority := by
    intro member
    exact absurd (plain ']' member) (by decide)
  simp [checkBrackets, noOpening, noClosing]

theorem any_hidesDelimiter_of_plain {authority : Text}
    (plain : ∀ char ∈ authority, isPlainChar char = true) :
    authority.any hidesDelimiter = false := by
  rw [List.any_eq_false]
  intro char member
  rw [hidesDelimiter_of_ascii (isPlainChar_iff.mp (plain char member)).1]
  decide

/-! ## Schemes -/

theorem isAscii_of_isSchemeChar (schemeChar : isSchemeChar char = true) : isAscii char = true := by
  simp only [isSchemeChar, Bool.or_eq_true, beq_iff_eq] at schemeChar
  rcases schemeChar with ((alphanumeric | rfl) | rfl) | rfl
  · exact isAscii_of_isAlphanum alphanumeric
  · decide
  · decide
  · decide

theorem isAlpha_toLower (letter : char.isAlpha = true) : char.toLower.isAlpha = true := by
  rcases toLower_eq_self_or_isLower char with same | small
  · rw [same]
    exact letter
  · exact isAlpha_of_isLower small

theorem isSchemeChar_toLower (schemeChar : isSchemeChar char = true) :
    isSchemeChar char.toLower = true := by
  rcases toLower_eq_self_or_isLower char with same | small
  · rw [same]
    exact schemeChar
  · have alphanumeric : char.toLower.isAlphanum = true :=
      isAlphanum_of_isAlpha (isAlpha_of_isLower small)
    simp [isSchemeChar, alphanumeric]

theorem toLower_toLower (char : Char) : char.toLower.toLower = char.toLower := by
  apply Char.toNat_inj.mp
  rw [toNat_toLower, if_neg]
  rw [toNat_toLower]
  split <;> omega

theorem isScheme_iff {scheme : Text} :
    isScheme scheme = true ↔ (∃ head rest, scheme = head :: rest ∧ head.isAlpha = true) ∧
      ∀ char ∈ scheme, isSchemeChar char = true := by
  cases scheme <;> simp [isScheme]

theorem ne_nil_of_isScheme {scheme : Text} (isScheme_scheme : isScheme scheme = true) :
    scheme ≠ [] := by
  rcases (isScheme_iff.mp isScheme_scheme).1 with ⟨head, rest, rfl, -⟩
  exact List.cons_ne_nil head rest

theorem isScheme_lowerAscii {scheme : Text} (isScheme_scheme : isScheme scheme = true) :
    isScheme (lowerAscii scheme) = true := by
  rcases isScheme_iff.mp isScheme_scheme with ⟨⟨head, rest, rfl, letter⟩, all⟩
  refine isScheme_iff.mpr ⟨⟨_, _, rfl, isAlpha_toLower letter⟩, ?_⟩
  intro char member
  rcases List.mem_map.mp member with ⟨source, sourceMember, rfl⟩
  exact isSchemeChar_toLower (all source sourceMember)

theorem lowerAscii_lowerAscii (scheme : Text) :
    lowerAscii (lowerAscii scheme) = lowerAscii scheme := by
  rw [lowerAscii, lowerAscii, List.map_map]
  apply List.map_congr_left
  intro char _
  exact toLower_toLower char

theorem isBlank_of_isSchemeChar (schemeChar : isSchemeChar char = true) : isBlank char = false :=
  forall_ascii (fun char => isSchemeChar char = true → isBlank char = false) (by decide +kernel)
    (isAscii_of_isSchemeChar schemeChar) schemeChar

/-! ## What a split establishes -/

/-- The parts of a split URL, one cut after the other. -/
theorem split_eq_ok (split_text : split text = .ok url) :
    ∃ rest behind,
      splitScheme (cleaned text) = (url.scheme, rest) ∧
      splitAuthority rest = (url.authority, behind) ∧
      checkBrackets url.authority = .ok () ∧ url.authority.any hidesDelimiter = false ∧
      url.path = before '?' (before '#' behind) ∧
      url.query = after '?' (before '#' behind) := by
  simp only [split] at split_text
  split at split_text
  · cases split_text
  · rename_i brackets
    split at split_text
    · cases split_text
    · rename_i noHidden
      cases split_text
      exact ⟨_, _, rfl, rfl, brackets, by simpa using noHidden, rfl, rfl⟩

/-- Cuts that pass the checks of the authority are the parts of the URL. -/
theorem split_of_checks {rest behind : Text} {scheme authority : Text}
    (scheme_eq : splitScheme (cleaned text) = (scheme, rest))
    (authority_eq : splitAuthority rest = (authority, behind))
    (brackets : checkBrackets authority = .ok ())
    (noHidden : authority.any hidesDelimiter = false) :
    split text = .ok {
      scheme, authority
      path := before '?' (before '#' behind)
      query := after '?' (before '#' behind)
      fragment := after '#' behind } := by
  simp [split, scheme_eq, authority_eq, brackets, noHidden]

theorem isInnerNoise_of_mem_cleaned (member : char ∈ cleaned text) : isInnerNoise char = false := by
  simpa using List.of_mem_filter member

theorem mem_of_mem_cleaned (member : char ∈ cleaned text) : char ∈ text :=
  List.dropWhile_subset _ (List.mem_of_mem_filter member)

theorem isInnerNoise_of_solid (solid : isBlank char = false) : isInnerNoise char = false := by
  cases noise : isInnerNoise char with
  | false => rfl
  | true =>
      simp only [isInnerNoise, Bool.or_eq_true, beq_iff_eq] at noise
      rcases noise with (rfl | rfl) | rfl <;> cases solid

/-- A scheme that is cut off is one, in small letters, and the rest comes from the text. -/
theorem isScheme_of_splitScheme {scheme rest : Text} (scheme_ne_nil : scheme ≠ [])
    (scheme_eq : splitScheme text = (scheme, rest)) :
    isScheme scheme = true ∧ lowerAscii scheme = scheme ∧ ∀ char ∈ rest, char ∈ text := by
  rw [splitScheme] at scheme_eq
  split at scheme_eq
  · rename_i isScheme_before
    rw [Bool.and_eq_true] at isScheme_before
    cases scheme_eq
    refine ⟨isScheme_lowerAscii isScheme_before.2, lowerAscii_lowerAscii _, ?_⟩
    intro char member
    exact mem_of_mem_after member
  · cases scheme_eq
    exact absurd rfl scheme_ne_nil

/--
An authority that is cut off stood behind two slashes, up to the first character that ends it.
-/
theorem splitAuthority_eq {rest authority behind : Text} (authority_ne_nil : authority ≠ [])
    (authority_eq : splitAuthority rest = (authority, behind)) :
    rest = '/' :: '/' :: (authority ++ behind) ∧
      (∀ char ∈ authority, endsAuthority char = false) ∧
      ∀ char ∈ behind.head?, endsAuthority char = true := by
  unfold splitAuthority at authority_eq
  split at authority_eq
  · cases authority_eq
    refine ⟨by rw [List.takeWhile_append_dropWhile], ?_, ?_⟩
    · intro char member
      simpa using List.mem_takeWhile_imp member
    · intro char isHead
      have stops := List.head?_dropWhile_not (!endsAuthority ·) ‹List Char›
      rw [Option.mem_def.mp isHead] at stops
      simpa using stops
  · cases authority_eq
    exact absurd rfl authority_ne_nil

/-- Behind two slashes, an authority is cut off up to the first character that ends it. -/
theorem splitAuthority_of_inside {authority behind : Text}
    (inside : ∀ char ∈ authority, endsAuthority char = false)
    (stops : ∀ char ∈ behind.head?, endsAuthority char = true) :
    splitAuthority ('/' :: '/' :: (authority ++ behind)) = (authority, behind) := by
  have kept : ∀ char ∈ authority, (!endsAuthority char) = true := by
    intro char member
    simp [inside char member]
  rw [splitAuthority, List.takeWhile_append_of_pos kept, List.dropWhile_append_of_pos kept]
  cases behind with
  | nil => simp
  | cons head rest => simp [stops head (by simp)]

/-- What is split off in front of a query or a fragment begins with a slash, if with anything. -/
theorem head_path_of_stops {behind : Text}
    (stops : ∀ char ∈ behind.head?, endsAuthority char = true) :
    ∀ char ∈ (before '?' (before '#' behind)).head?, char = '/' := by
  intro char isHead
  cases behind with
  | nil => simp [before] at isHead
  | cons head tail =>
      have ends := stops head (by simp)
      simp only [endsAuthority, Bool.or_eq_true, beq_iff_eq] at ends
      rcases ends with (rfl | rfl) | rfl
      · simpa [before, eq_comm] using isHead
      · simp [before] at isHead
      · simp [before] at isHead

/-- Splitting a text gives sound parts; their characters are those of the text. -/
theorem sound_of_split (split_text : split text = .ok url) (scheme_ne_nil : url.scheme ≠ [])
    (authority_ne_nil : url.authority ≠ []) :
    url.Sound ∧ ∀ char ∈ url.authority ++ url.path ++ url.query, char ∈ text := by
  rcases split_eq_ok split_text with
    ⟨rest, behind, scheme_eq, authority_eq, brackets, noHidden, path_eq, query_eq⟩
  rcases isScheme_of_splitScheme scheme_ne_nil scheme_eq with ⟨isScheme_url, small, fromCleaned⟩
  rcases splitAuthority_eq authority_ne_nil authority_eq with ⟨rfl, inside, stops⟩
  have authorityFrom (char : Char) (member : char ∈ url.authority) : char ∈ cleaned text := by
    apply fromCleaned
    simp [member]
  have behindFrom (char : Char) (member : char ∈ before '#' behind) : char ∈ cleaned text := by
    apply fromCleaned
    simp [mem_of_mem_before member]
  have pathFrom (char : Char) (member : char ∈ url.path) : char ∈ cleaned text := by
    rw [path_eq] at member
    exact behindFrom char (mem_of_mem_before member)
  have queryFrom (char : Char) (member : char ∈ url.query) : char ∈ cleaned text := by
    rw [query_eq] at member
    exact behindFrom char (mem_of_mem_after member)
  refine ⟨⟨isScheme_url, small, authority_ne_nil, inside, ?_, brackets, noHidden, ?_, ?_, ?_, ?_,
    ?_, ?_⟩, ?_⟩
  · exact fun char member => isInnerNoise_of_mem_cleaned (authorityFrom char member)
  · rw [path_eq]
    exact head_path_of_stops stops
  · rw [path_eq]
    exact not_mem_before '?' _
  · rw [path_eq]
    intro member
    exact not_mem_before '#' behind (mem_of_mem_before member)
  · exact fun char member => isInnerNoise_of_mem_cleaned (pathFrom char member)
  · rw [query_eq]
    intro member
    exact not_mem_before '#' behind (mem_of_mem_after member)
  · exact fun char member => isInnerNoise_of_mem_cleaned (queryFrom char member)
  · intro char member
    apply mem_of_mem_cleaned
    rcases List.mem_append.mp member with front | query
    · rcases List.mem_append.mp front with authority | path
      · exact authorityFrom char authority
      · exact pathFrom char path
    · exact queryFrom char query

/-- A split of a text without blanks gives plain parts when the authority is plain. -/
theorem plain_of_split (split_text : split text = .ok url) (scheme_ne_nil : url.scheme ≠ [])
    (authority_ne_nil : url.authority ≠ []) (solid : ∀ char ∈ text, isBlank char = false)
    (ascii : ∀ char ∈ url.authority, isAscii char = true)
    (noBrackets : '[' ∉ url.authority ∧ ']' ∉ url.authority) : url.Plain := by
  rcases sound_of_split split_text scheme_ne_nil authority_ne_nil with ⟨sound, fromText⟩
  refine ⟨sound.scheme, sound.scheme_small, authority_ne_nil, ?_, sound.path_start,
    sound.path_noQuery, sound.path_noFragment, sound.query_noFragment, ?_, ?_⟩
  · intro char member
    refine isPlainChar_iff.mpr ⟨ascii char member, ?_, sound.authority_inside char member, ?_, ?_⟩
    · apply solid char
      apply fromText
      simp [member]
    · rintro rfl
      exact noBrackets.1 member
    · rintro rfl
      exact noBrackets.2 member
  · intro char member
    apply solid char
    apply fromText
    simp [member]
  · intro char member
    apply solid char
    apply fromText
    simp [member]

/-! ## Capital letters in a scheme -/

theorem exists_cons_of_isScheme {scheme : Text} (isScheme_scheme : isScheme scheme = true) :
    ∃ head rest, scheme = head :: rest ∧ isBlank head = false ∧ isLeadingNoise head = false := by
  rcases (isScheme_iff.mp isScheme_scheme).1 with ⟨head, rest, shape, letter⟩
  have solid := forall_ascii
    (fun char => char.isAlpha = true → isBlank char = false ∧ isLeadingNoise char = false)
    (by decide +kernel) (isAscii_of_isAlpha letter) letter
  exact ⟨head, rest, shape, solid⟩

theorem isInnerNoise_of_mem_scheme {scheme : Text} (isScheme_scheme : isScheme scheme = true) :
    ∀ char ∈ scheme, isInnerNoise char = false := by
  intro char member
  apply isInnerNoise_of_solid
  exact isBlank_of_isSchemeChar ((isScheme_iff.mp isScheme_scheme).2 char member)

/-- A scheme in front of a colon is cut off in small letters. -/
theorem splitScheme_cleaned_append {scheme : Text} (isScheme_scheme : isScheme scheme = true)
    (rest : Text) : splitScheme (cleaned (scheme ++ ':' :: rest)) =
      (lowerAscii scheme, rest.filter (!isInnerNoise ·)) := by
  rcases exists_cons_of_isScheme isScheme_scheme with ⟨head, others, shape, -, notLeading⟩
  have noFront : (scheme ++ ':' :: rest).dropWhile isLeadingNoise = scheme ++ ':' :: rest := by
    simp [shape, notLeading]
  have kept : scheme.filter (!isInnerNoise ·) = scheme := by
    apply List.filter_eq_self.mpr
    intro char member
    simp [isInnerNoise_of_mem_scheme isScheme_scheme char member]
  have noColon : ':' ∉ scheme := fun member =>
    absurd ((isScheme_iff.mp isScheme_scheme).2 ':' member) (by decide)
  have notNoise : isInnerNoise ':' = false := by decide
  simp [splitScheme, cleaned, noFront, kept, notNoise, isScheme_scheme,
    before_append_of_mem ':' _ _ noColon, after_append_of_mem ':' _ _ noColon]

/-- It makes no difference to a split in which letters the scheme is written. -/
theorem split_lowerAscii {scheme : Text} (isScheme_scheme : isScheme scheme = true) (rest : Text) :
    split (lowerAscii scheme ++ ':' :: rest) = split (scheme ++ ':' :: rest) := by
  have small := splitScheme_cleaned_append (isScheme_lowerAscii isScheme_scheme) rest
  rw [lowerAscii_lowerAscii] at small
  simp only [split, small, splitScheme_cleaned_append isScheme_scheme rest]

/-! ## Splitting a written URL -/

theorem mem_marked {part : Text} (member : char ∈ marked mark part) :
    char = mark ∨ char ∈ part := by
  rw [marked] at member
  split at member
  · cases member
  · exact List.mem_cons.mp member

theorem before_append_marked (part : Text) (free : mark ∉ text) :
    before mark (text ++ marked mark part) = text := by
  rw [marked]
  split
  · rw [List.append_nil, before_of_not_mem free]
  · exact before_append_of_mem mark text part free

theorem after_append_marked (part : Text) (free : mark ∉ text) :
    after mark (text ++ marked mark part) = part := by
  rw [marked]
  split
  · rename_i empty
    rw [List.append_nil, after_of_not_mem free, List.isEmpty_iff.mp empty]
  · exact after_append_of_mem mark text part free

theorem head_append_marked {path : Text} (path_start : ∀ char ∈ path.head?, char = '/')
    (query : Text) : ∀ char ∈ (path ++ marked '?' query).head?, endsAuthority char = true := by
  intro char isHead
  cases path with
  | nil =>
      rw [List.nil_append, marked] at isHead
      split at isHead
      · cases isHead
      · cases isHead
        rfl
  | cons head rest =>
      have isSlash : char = '/' := path_start char isHead
      rw [isSlash]
      rfl

theorem isBlank_of_mem_written (isScheme_scheme : isScheme url.scheme = true)
    (solid : ∀ char ∈ url.authority ++ url.path ++ url.query, isBlank char = false)
    (member : char ∈ url.written) : isBlank char = false := by
  simp only [written, List.mem_append] at member
  rcases member with (((scheme | slashes) | authority) | path) | query
  · exact isBlank_of_isSchemeChar ((isScheme_iff.mp isScheme_scheme).2 char scheme)
  · have colon_or_slash : char = ':' ∨ char = '/' := by simpa using slashes
    rcases colon_or_slash with rfl | rfl <;> decide
  · exact solid char (by simp [authority])
  · exact solid char (by simp [path])
  · rcases mem_marked query with rfl | query
    · decide
    · exact solid char (by simp [query])

namespace Shaped

theorem exists_scheme_cons (shaped : url.Shaped) :
    ∃ head rest, url.scheme = head :: rest ∧ isBlank head = false ∧ isLeadingNoise head = false :=
  exists_cons_of_isScheme shaped.scheme

/-- Cleaning leaves a shaped URL alone, with anything quiet behind its authority. -/
theorem cleaned_append (shaped : url.Shaped) {behind : Text}
    (quiet : ∀ char ∈ behind, isInnerNoise char = false) :
    cleaned (url.scheme ++ "://".toList ++ url.authority ++ behind) =
      url.scheme ++ "://".toList ++ url.authority ++ behind := by
  have noFront : (url.scheme ++ "://".toList ++ url.authority ++ behind).dropWhile isLeadingNoise =
      url.scheme ++ "://".toList ++ url.authority ++ behind := by
    rcases shaped.exists_scheme_cons with ⟨head, rest, shape, -, notNoise⟩
    simp [shape, notNoise]
  rw [cleaned, noFront]
  apply List.filter_eq_self.mpr
  intro char member
  simp only [List.mem_append] at member
  rw [Bool.not_eq_true']
  rcases member with ((scheme | slashes) | authority) | behindMember
  · exact isInnerNoise_of_mem_scheme shaped.scheme char scheme
  · have colon_or_slash : char = ':' ∨ char = '/' := by simpa using slashes
    rcases colon_or_slash with rfl | rfl <;> decide
  · exact shaped.authority_quiet char authority
  · exact quiet char behindMember

/-- The scheme of a shaped URL is cut off again. -/
theorem splitScheme_append (shaped : url.Shaped) (behind : Text) :
    splitScheme (url.scheme ++ "://".toList ++ url.authority ++ behind) =
      (url.scheme, '/' :: '/' :: (url.authority ++ behind)) := by
  have noColon : ':' ∉ url.scheme := by
    intro member
    exact absurd ((isScheme_iff.mp shaped.scheme).2 ':' member) (by decide)
  have shape : url.scheme ++ "://".toList ++ url.authority ++ behind =
      url.scheme ++ ':' :: '/' :: '/' :: (url.authority ++ behind) := by
    simp
  rw [splitScheme, shape, before_append_of_mem ':' _ _ noColon, after_append_of_mem ':' _ _ noColon,
    shaped.scheme, shaped.scheme_small]
  simp

theorem splitAuthority_append (shaped : url.Shaped) {behind : Text}
    (stops : ∀ char ∈ behind.head?, endsAuthority char = true) :
    splitAuthority ('/' :: '/' :: (url.authority ++ behind)) = (url.authority, behind) :=
  splitAuthority_of_inside shaped.authority_inside stops

/-- A split that succeeds finds the authority, whatever stands behind it. -/
theorem authority_of_split (shaped : url.Shaped) {behind : Text} {parts : Url}
    (stops : ∀ char ∈ behind.head?, endsAuthority char = true)
    (quiet : ∀ char ∈ behind, isInnerNoise char = false)
    (split_text : split (url.scheme ++ "://".toList ++ url.authority ++ behind) = .ok parts) :
    parts.authority = url.authority ∧ checkBrackets url.authority = .ok () := by
  rcases split_eq_ok split_text with ⟨rest, behindToo, scheme_eq, authority_eq, brackets, -⟩
  rw [shaped.cleaned_append quiet, shaped.splitScheme_append] at scheme_eq
  rw [← (Prod.mk.inj scheme_eq).2, shaped.splitAuthority_append stops] at authority_eq
  have same := (Prod.mk.inj authority_eq).1
  rw [← same] at brackets
  exact ⟨same.symm, brackets⟩

end Shaped

namespace Sound

theorem shaped (sound : url.Sound) : url.Shaped :=
  ⟨sound.scheme, sound.scheme_small, sound.authority_inside, sound.authority_quiet⟩

/-- Splitting finds a sound scheme and a sound authority again, whatever stands behind them. -/
theorem split_append (sound : url.Sound) {behind : Text}
    (stops : ∀ char ∈ behind.head?, endsAuthority char = true)
    (quiet : ∀ char ∈ behind, isInnerNoise char = false) :
    split (url.scheme ++ "://".toList ++ url.authority ++ behind) = .ok {
      scheme := url.scheme
      authority := url.authority
      path := before '?' (before '#' behind)
      query := after '?' (before '#' behind)
      fragment := after '#' behind } := by
  have scheme_eq := sound.shaped.splitScheme_append behind
  rw [← sound.shaped.cleaned_append quiet] at scheme_eq
  exact split_of_checks scheme_eq (sound.shaped.splitAuthority_append stops) sound.brackets
    sound.noHidden

theorem stops_written (sound : url.Sound) :
    ∀ char ∈ (url.path ++ marked '?' url.query).head?, endsAuthority char = true :=
  head_append_marked sound.path_start url.query

theorem quiet_written (sound : url.Sound) :
    ∀ char ∈ url.path ++ marked '?' url.query, isInnerNoise char = false := by
  intro char member
  rcases List.mem_append.mp member with path | query
  · exact sound.path_quiet char path
  · rcases mem_marked query with rfl | query
    · decide
    · exact sound.query_quiet char query

theorem noFragment_written (sound : url.Sound) : '#' ∉ url.path ++ marked '?' url.query := by
  intro member
  rcases List.mem_append.mp member with path | query
  · exact sound.path_noFragment path
  · rcases mem_marked query with same | query
    · cases same
    · exact sound.query_noFragment query

/-- Sound parts that are written are split into the same parts again. -/
theorem split_written (sound : url.Sound) :
    split url.written = .ok { url with fragment := [] } := by
  have noFragment := sound.noFragment_written
  rw [written, List.append_assoc, sound.split_append sound.stops_written sound.quiet_written,
    before_of_not_mem noFragment, after_of_not_mem noFragment,
    before_append_marked _ sound.path_noQuery, after_append_marked _ sound.path_noQuery]

end Sound

namespace Plain

theorem isBlank_of_mem_written (plain : url.Plain) (member : char ∈ url.written) :
    isBlank char = false := by
  refine Url.isBlank_of_mem_written plain.scheme ?_ member
  intro char member
  rcases List.mem_append.mp member with front | query
  · rcases List.mem_append.mp front with authority | path
    · exact (isPlainChar_iff.mp (plain.authority char authority)).2.1
    · exact plain.path_solid char path
  · exact plain.query_solid char query

theorem sound (plain : url.Plain) : url.Sound := by
  refine ⟨plain.scheme, plain.scheme_small, plain.authority_ne_nil, ?_, ?_,
    checkBrackets_of_plain plain.authority, any_hidesDelimiter_of_plain plain.authority,
    plain.path_start, plain.path_noQuery, plain.path_noFragment, ?_, plain.query_noFragment, ?_⟩
  · exact fun char member => (isPlainChar_iff.mp (plain.authority char member)).2.2.1
  · exact fun char member =>
      isInnerNoise_of_solid (isPlainChar_iff.mp (plain.authority char member)).2.1
  · exact fun char member => isInnerNoise_of_solid (plain.path_solid char member)
  · exact fun char member => isInnerNoise_of_solid (plain.query_solid char member)

/-- Plain parts that are written are split into the same parts again. -/
theorem split_written (plain : url.Plain) :
    split url.written = .ok { url with fragment := [] } :=
  plain.sound.split_written

end Plain

end Url

end SignOnGate
