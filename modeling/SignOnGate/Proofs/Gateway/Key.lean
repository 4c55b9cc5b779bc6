import SignOnGate.Gateway.Key
import SignOnGate.Proofs.Url.Host

/-!
# Keys that tell services apart

A key is written without scheme and fragment, and its parts can still be told apart: the authority
ends where it did before it was lowered, since no mark that ends an authority is a small letter, and
the path ends at the first question mark. So two service URLs share a key exactly when they agree on
the authority up to case, on the path and on the query.
-/

namespace SignOnGate

namespace Url

open Text

variable {text : Text} {url : Url}

theorem inside_of_split (split_text : split text = .ok url)
    (authority_ne_nil : url.authority ≠ []) :
    (∀ char ∈ url.authority, endsAuthority char = false) ∧
      (∀ char ∈ url.path.head?, char = '/') ∧ '?' ∉ url.path := by
  rcases split_eq_ok split_text with ⟨rest, behind, -, authority_eq, -, -, path_eq, -⟩
  rcases splitAuthority_eq authority_ne_nil authority_eq with ⟨-, inside, stops⟩
  rw [path_eq]
  exact ⟨inside, head_path_of_stops stops, not_mem_before '?' _⟩

theorem endsAuthority_of_mem_lower (inside : ∀ char ∈ text, endsAuthority char = false) :
    ∀ char ∈ lower text, endsAuthority char = false := by
  intro char member
  by_contra ends
  have outer : isInnerChar char = false := by simp_all [isInnerChar]
  have stood := mem_of_mem_lowerFrom (isUnreached_of_outer outer) member
  exact ends (inside char stood)

end Url

namespace Gateway

open Text Url

variable {text first second : Text} {url firstUrl secondUrl : Url}

theorem key_of_split (split_text : split text = .ok url) (authority_ne_nil : url.authority ≠ []) :
    key text = '/' :: '/' :: (lower url.authority ++ (url.path ++ marked '?' url.query)) := by
  have nonempty : url.authority.isEmpty = false := by simpa using authority_ne_nil
  have lower_ne_nil : lower url.authority ≠ [] := lowerFrom_ne_nil false authority_ne_nil
  rcases inside_of_split split_text authority_ne_nil with ⟨-, path_start, -⟩
  have hierarchy := joinedHierarchy_eq
    { url with scheme := [], authority := lower url.authority, fragment := [] }
    lower_ne_nil path_start
  simp [key, split_text, nonempty, join, hierarchy, marked]

/-- A key falls into the authority and what stands behind it. -/
theorem splitAuthority_key (split_text : split text = .ok url)
    (authority_ne_nil : url.authority ≠ []) :
    splitAuthority (key text) = (lower url.authority, url.path ++ marked '?' url.query) := by
  rcases inside_of_split split_text authority_ne_nil with ⟨inside, path_start, -⟩
  rw [key_of_split split_text authority_ne_nil]
  exact splitAuthority_of_inside (endsAuthority_of_mem_lower inside)
    (head_append_marked path_start url.query)

/-- Two service URLs share a key exactly when they differ in case, scheme and fragment at most. -/
theorem key_eq_key_iff (split_first : split first = .ok firstUrl)
    (split_second : split second = .ok secondUrl) (first_authority : firstUrl.authority ≠ [])
    (second_authority : secondUrl.authority ≠ []) :
    key first = key second ↔ lower firstUrl.authority = lower secondUrl.authority ∧
      firstUrl.path = secondUrl.path ∧ firstUrl.query = secondUrl.query := by
  constructor
  · intro same
    have parts := congrArg splitAuthority same
    rw [splitAuthority_key split_first first_authority,
      splitAuthority_key split_second second_authority, Prod.mk.injEq] at parts
    rcases parts with ⟨authority_eq, behind_eq⟩
    rcases inside_of_split split_first first_authority with ⟨-, -, firstNoQuery⟩
    rcases inside_of_split split_second second_authority with ⟨-, -, secondNoQuery⟩
    have path_eq := congrArg (before '?') behind_eq
    have query_eq := congrArg (after '?') behind_eq
    rw [before_append_marked _ firstNoQuery, before_append_marked _ secondNoQuery] at path_eq
    rw [after_append_marked _ firstNoQuery, after_append_marked _ secondNoQuery] at query_eq
    exact ⟨authority_eq, path_eq, query_eq⟩
  · rintro ⟨authority_eq, path_eq, query_eq⟩
    rw [key_of_split split_first first_authority, key_of_split split_second second_authority,
      authority_eq, path_eq, query_eq]

/--
Letter case, scheme, fragment and a tab make no difference to a key; a slash in front of the query
does.
-/
theorem keys_tell_path_from_query :
    key "HTTP://App.Example.ORG/a?x=/y?z#top".toList =
      key "https://app.example.org/a?\tx=/y?z".toList ∧
      key "http://app.example.org/?a".toList ≠ key "http://app.example.org?/a".toList := by
  have capital : split "HTTP://App.Example.ORG/a?x=/y?z#top".toList =
      .ok ⟨"http".toList, "App.Example.ORG".toList, "/a".toList, "x=/y?z".toList,
        "top".toList⟩ := by
    decide +kernel
  have small : split "https://app.example.org/a?\tx=/y?z".toList =
      .ok ⟨"https".toList, "app.example.org".toList, "/a".toList, "x=/y?z".toList, []⟩ := by
    decide +kernel
  have inPath : split "http://app.example.org/?a".toList =
      .ok ⟨"http".toList, "app.example.org".toList, "/".toList, "a".toList, []⟩ := by
    decide +kernel
  have inQuery : split "http://app.example.org?/a".toList =
      .ok ⟨"http".toList, "app.example.org".toList, [], "/a".toList, []⟩ := by
    decide +kernel
  constructor
  · apply (key_eq_key_iff capital small (by decide) (by decide)).mpr
    decide +kernel
  · intro same
    rcases (key_eq_key_iff inPath inQuery (by decide) (by decide)).mp same with ⟨-, path_eq, -⟩
    cases path_eq

end Gateway

end SignOnGate
