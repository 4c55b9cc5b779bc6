import SignOnGate.Proofs.Url.Split

/-!
# Splitting at the query and at the fragment

Scheme, authority and path of a text are settled in front of its first question mark and its first
hash. So whatever is written behind such a mark goes into the query or the fragment, and splitting
the text comes to splitting what stands in front of the mark.
-/

namespace SignOnGate

namespace Url

open Text

/-- A text without the characters that are dropped wherever they stand. -/
def quieted (text : Text) : Text :=
  text.filter (!isInnerNoise ·)

variable {front rest text : Text} {url : Url} {mark : Char}

theorem mem_of_mem_quieted {char : Char} (member : char ∈ quieted text) : char ∈ text :=
  List.mem_of_mem_filter member

@[simp]
theorem quieted_append (first second : Text) :
    quieted (first ++ second) = quieted first ++ quieted second :=
  List.filter_append first second

theorem quieted_of_quiet (quiet : ∀ char ∈ text, isInnerNoise char = false) :
    quieted text = text := by
  apply List.filter_eq_self.mpr
  intro char member
  simp [quiet char member]

/-! ## In front of a mark -/

/-- A text is cleaned on both sides of a query or fragment mark separately. -/
theorem cleaned_append_mark (isMark : mark = '?' ∨ mark = '#') :
    cleaned (front ++ mark :: rest) = cleaned front ++ mark :: quieted rest := by
  have notNoise : isLeadingNoise mark = false ∧ isInnerNoise mark = false := by
    rcases isMark with rfl | rfl <;> decide
  have dropped : (front ++ mark :: rest).dropWhile isLeadingNoise =
      front.dropWhile isLeadingNoise ++ mark :: rest := by
    rw [List.dropWhile_append]
    split
    · rename_i empty
      simp [List.isEmpty_iff.mp empty, notNoise.1]
    · rfl
  simp [cleaned, quieted, dropped, notNoise.2]

/-- What stands behind a query or fragment mark is no matter to the scheme. -/
theorem splitScheme_append_mark (isMark : mark = '?' ∨ mark = '#') :
    splitScheme (text ++ mark :: rest) =
      ((splitScheme text).1, (splitScheme text).2 ++ mark :: rest) := by
  by_cases colon : ':' ∈ text
  · rw [splitScheme, splitScheme, before_append_of_mem_left colon, after_append_of_mem_left colon]
    by_cases named : isScheme (before ':' text) = true <;> simp [colon, named]
  · -- A colon behind the mark ends no scheme, because the mark would be part of it.
    have notScheme : isScheme (before ':' (text ++ mark :: rest)) = false := by
      rw [before_append_of_not_mem colon, Bool.eq_false_iff]
      intro named
      have inScheme : isSchemeChar mark = true := by
        apply (isScheme_iff.mp named).2
        rcases isMark with rfl | rfl <;> simp [before]
      rcases isMark with rfl | rfl <;> cases inScheme
    simp [splitScheme, colon, notScheme]

theorem splitAuthority_of_ne (noSlashes : ∀ behind, text ≠ '/' :: '/' :: behind) :
    splitAuthority text = ([], text) := by
  unfold splitAuthority
  split
  · exact absurd rfl (noSlashes _)
  · rfl

/-- What stands behind a query or fragment mark is no matter to the authority. -/
theorem splitAuthority_append_mark (isMark : mark = '?' ∨ mark = '#') :
    splitAuthority (text ++ mark :: rest) =
      ((splitAuthority text).1, (splitAuthority text).2 ++ mark :: rest) := by
  have ends : endsAuthority mark = true := by
    rcases isMark with rfl | rfl <;> rfl
  have notSlash : mark ≠ '/' := by
    rintro rfl
    rcases isMark with same | same <;> cases same
  by_cases slashes : ∃ behind, text = '/' :: '/' :: behind
  · rcases slashes with ⟨behind, rfl⟩
    have inside : (behind ++ mark :: rest).takeWhile (!endsAuthority ·) =
        behind.takeWhile (!endsAuthority ·) := by
      rw [List.takeWhile_append]
      split
      · rename_i sameLength
        simp [(List.takeWhile_prefix _).eq_of_length sameLength, ends]
      · rfl
    have outside : (behind ++ mark :: rest).dropWhile (!endsAuthority ·) =
        behind.dropWhile (!endsAuthority ·) ++ mark :: rest := by
      rw [List.dropWhile_append]
      split
      · rename_i empty
        simp [List.isEmpty_iff.mp empty, ends]
      · rfl
    simp only [List.cons_append, splitAuthority, inside, outside]
  · push Not at slashes
    rw [splitAuthority_of_ne slashes, splitAuthority_of_ne]
    intro behind shape
    cases text with
    | nil => exact notSlash (List.cons.inj shape).1
    | cons first others =>
        cases others with
        | nil => exact notSlash (List.cons.inj (List.cons.inj shape).2).1
        | cons second others =>
            injection shape with firstSlash shape
            injection shape with secondSlash shape
            subst firstSlash secondSlash
            exact slashes others rfl

/-! ## The whole split -/

/-- The text behind the authority, with the path in front. -/
def hierarchy (text : Text) : Text :=
  (splitAuthority (splitScheme (cleaned text)).2).2

theorem mem_of_mem_splitScheme {char : Char} (member : char ∈ (splitScheme text).2) :
    char ∈ text := by
  rw [splitScheme] at member
  split at member
  · exact mem_of_mem_after member
  · exact member

theorem mem_of_mem_splitAuthority {char : Char} (member : char ∈ (splitAuthority text).2) :
    char ∈ text := by
  unfold splitAuthority at member
  split at member
  · exact List.mem_cons_of_mem _ (List.mem_cons_of_mem _ (List.dropWhile_subset _ member))
  · exact member

theorem mem_of_mem_hierarchy {char : Char} (member : char ∈ hierarchy text) : char ∈ text :=
  mem_of_mem_cleaned (mem_of_mem_splitScheme (mem_of_mem_splitAuthority member))

/-- What follows the first question mark is the query, up to a hash. -/
theorem split_append_query (noQuery : '?' ∉ front) (noFragment : '#' ∉ front) (rest : Text) :
    split (front ++ '?' :: rest) = (split front).map fun url =>
      { url with query := before '#' (quieted rest), fragment := after '#' (quieted rest) } := by
  have pathNoQuery : '?' ∉ hierarchy front := fun member => noQuery (mem_of_mem_hierarchy member)
  have pathNoFragment : '#' ∉ hierarchy front := fun member =>
    noFragment (mem_of_mem_hierarchy member)
  have beforeFragment : before '#' (hierarchy front ++ '?' :: quieted rest) =
      hierarchy front ++ '?' :: before '#' (quieted rest) := by
    rw [before_append_of_not_mem pathNoFragment]
    rfl
  have afterFragment : after '#' (hierarchy front ++ '?' :: quieted rest) =
      after '#' (quieted rest) := by
    rw [after_append_of_not_mem pathNoFragment]
    rfl
  have path : before '?' (before '#' (hierarchy front)) = hierarchy front := by
    rw [before_of_not_mem pathNoFragment, before_of_not_mem pathNoQuery]
  simp only [split, cleaned_append_mark (Or.inl rfl), splitScheme_append_mark (Or.inl rfl),
    splitAuthority_append_mark (Or.inl rfl), ← hierarchy.eq_1, beforeFragment, afterFragment, path,
    before_append_of_mem _ _ _ pathNoQuery, after_append_of_mem _ _ _ pathNoQuery]
  split
  · rfl
  · split <;> rfl

/-- What follows the first hash is the fragment. -/
theorem split_append_fragment (noFragment : '#' ∉ front) (rest : Text) :
    split (front ++ '#' :: rest) = (split front).map fun url =>
      { url with fragment := quieted rest } := by
  have pathNoFragment : '#' ∉ hierarchy front := fun member =>
    noFragment (mem_of_mem_hierarchy member)
  simp only [split, cleaned_append_mark (Or.inr rfl), splitScheme_append_mark (Or.inr rfl),
    splitAuthority_append_mark (Or.inr rfl), ← hierarchy.eq_1,
    before_append_of_mem _ _ _ pathNoFragment, after_append_of_mem _ _ _ pathNoFragment,
    before_of_not_mem pathNoFragment]
  split
  · rfl
  · split <;> rfl

/-- Without a question mark there is no query, and without a hash no fragment. -/
theorem eq_nil_of_split (split_text : split text = .ok url) :
    ('?' ∉ text → url.query = []) ∧ ('#' ∉ text → url.fragment = []) := by
  simp only [split, ← hierarchy.eq_1] at split_text
  split at split_text
  · cases split_text
  · split at split_text
    · cases split_text
    · cases split_text
      refine ⟨?_, ?_⟩
      · intro noQuery
        apply after_of_not_mem
        exact fun member => noQuery (mem_of_mem_hierarchy (mem_of_mem_before member))
      · intro noFragment
        apply after_of_not_mem
        exact fun member => noFragment (mem_of_mem_hierarchy member)

/-- A query without a hash is split off as it was written. -/
theorem split_append_marked {query : Text} (noQuery : '?' ∉ front) (noFragment : '#' ∉ front)
    (queryNoFragment : '#' ∉ query) (quiet : ∀ char ∈ query, isInnerNoise char = false) :
    split (front ++ marked '?' query) = (split front).map fun url => { url with query } := by
  cases split_front : split front with
  | error fault =>
      cases query with
      | nil => simp [marked, split_front, Except.map]
      | cons head rest =>
          rw [marked, if_neg (by simp), split_append_query noQuery noFragment, split_front]
          rfl
  | ok url =>
      have empty := eq_nil_of_split split_front
      cases query with
      | nil =>
          have same : { url with query := [] } = url := by rw [← empty.1 noQuery]
          simpa [marked, Except.map, same] using split_front
      | cons head rest =>
          have same : { url with query := head :: rest, fragment := [] } =
              { url with query := head :: rest } := by
            rw [← empty.2 noFragment]
          rw [marked, if_neg (by simp), split_append_query noQuery noFragment, split_front,
            quieted_of_quiet quiet, before_of_not_mem queryNoFragment,
            after_of_not_mem queryNoFragment]
          exact congrArg Except.ok same

/-! ## A query and a fragment -/

section Tail

variable {query tail : Text}

theorem before_quieted_tail (isTail : ∀ char ∈ tail.head?, char = '#') :
    before '#' (quieted tail) = [] := by
  cases tail with
  | nil => rfl
  | cons head rest =>
      rw [isTail head rfl]
      rfl

/-- A text with a query, and a tail that is empty or begins with a hash. -/
theorem split_append_query_tail (noQuery : '?' ∉ front) (noFragment : '#' ∉ front)
    (queryNoFragment : '#' ∉ query) (isTail : ∀ char ∈ tail.head?, char = '#') :
    split (front ++ '?' :: (query ++ tail)) = (split front).map fun url =>
      { url with query := quieted query, fragment := after '#' (quieted tail) } := by
  have free : '#' ∉ quieted query := fun member => queryNoFragment (mem_of_mem_quieted member)
  rw [split_append_query noQuery noFragment, quieted_append, before_append_of_not_mem free,
    after_append_of_not_mem free, before_quieted_tail isTail, List.append_nil]

/-- A text without a query, and a tail that is empty or begins with a hash. -/
theorem split_append_tail (noFragment : '#' ∉ front) (isTail : ∀ char ∈ tail.head?, char = '#') :
    split (front ++ tail) = (split front).map fun url =>
      { url with fragment := after '#' (quieted tail) } := by
  cases tail with
  | nil =>
      rw [List.append_nil]
      cases split_front : split front with
      | error fault => rfl
      | ok url =>
          have empty := (eq_nil_of_split split_front).2 noFragment
          have same : { url with fragment := [] } = url := by rw [← empty]
          exact congrArg Except.ok same.symm
  | cons head rest =>
      rw [isTail head rfl, split_append_fragment noFragment]
      rfl

/-! ## Adding to the query -/

variable {added : Text}

/-- A field that is put behind a query shows at the end of the query, and nowhere else. -/
theorem split_more_query (noQuery : '?' ∉ front) (noFragment : '#' ∉ front)
    (queryNoFragment : '#' ∉ query) (isTail : ∀ char ∈ tail.head?, char = '#')
    (addedNoFragment : '#' ∉ added) (quiet : ∀ char ∈ added, isInnerNoise char = false)
    (split_text : split (front ++ '?' :: (query ++ tail)) = .ok url) :
    split (front ++ '?' :: (query ++ '&' :: (added ++ tail))) =
      .ok { url with query := url.query ++ '&' :: added } := by
  have moreNoFragment : '#' ∉ query ++ '&' :: added := by simp [queryNoFragment, addedNoFragment]
  have more : quieted (query ++ '&' :: added) = quieted query ++ '&' :: added := by
    rw [quieted_append]
    congr 1
    apply quieted_of_quiet
    simpa using ⟨by decide, quiet⟩
  have grouped : query ++ '&' :: (added ++ tail) = (query ++ '&' :: added) ++ tail := by simp
  rw [grouped, split_append_query_tail noQuery noFragment moreNoFragment isTail, more]
  rw [split_append_query_tail noQuery noFragment queryNoFragment isTail] at split_text
  cases split_front : split front with
  | error fault =>
      rw [split_front] at split_text
      cases split_text
  | ok parts =>
      rw [split_front] at split_text
      cases split_text
      rfl

/-- A field that is put where no query was is the whole query, and nothing else changes. -/
theorem split_first_query (noQuery : '?' ∉ front) (noFragment : '#' ∉ front)
    (isTail : ∀ char ∈ tail.head?, char = '#') (addedNoFragment : '#' ∉ added)
    (quiet : ∀ char ∈ added, isInnerNoise char = false)
    (split_text : split (front ++ tail) = .ok url) :
    split (front ++ '?' :: (added ++ tail)) = .ok { url with query := added } ∧ url.query = [] := by
  rw [split_append_query_tail noQuery noFragment addedNoFragment isTail, quieted_of_quiet quiet]
  rw [split_append_tail noFragment isTail] at split_text
  cases split_front : split front with
  | error fault =>
      rw [split_front] at split_text
      cases split_text
  | ok parts =>
      rw [split_front] at split_text
      cases split_text
      exact ⟨rfl, (eq_nil_of_split split_front).1 noQuery⟩

end Tail

end Url

end SignOnGate
