import Mathlib.Data.List.Flatten
import SignOnGate.Proofs.Http.Scope
import SignOnGate.Proofs.ServiceUrl
import SignOnGate.Proofs.Text.Escape

/-!
# Coming back to the page

The URL of a scope is put together from a path that was decoded before, and the login service sends
the client back to the page that this URL names. The marks of the path are escaped in the URL, but
its percent signs are not: a percent sign with two digits behind it is taken for an escape and
decoded a second time. So the client comes back to its page exactly when the path has no such text,
and brings the fields of its query back exactly when the query does not end in a space, which would
be stripped.
-/

namespace SignOnGate

open Text Url

/-! ## Queries that end in a blank -/

/-- Stripping the query takes something off its fields exactly when it takes off anything. -/
theorem Query.fields_without_stripEnd_eq_iff {name query : Text}
    (lacks : ∀ field ∈ fields query, before '=' field ≠ name) :
    fields (without name (stripEnd query)) = fields query ↔
      ∀ char ∈ query.getLast?, isBlank char = false := by
  rw [fields_without]
  constructor
  · intro same char isLast
    by_contra blank
    rw [Bool.not_eq_false] at blank
    rcases exists_stripEnd_append isLast blank with ⟨tail, tail_ne_nil, whole⟩
    have notMark : char ≠ '&' := by
      rintro rfl
      cases blank
    have inTail : char ∈ tail := by
      rw [← whole, Option.mem_def, List.getLast?_append_of_ne_nil _ tail_ne_nil] at isLast
      exact List.mem_of_getLast? isLast
    have lost : char ∈ tail.filter (· ≠ '&') := by
      apply List.mem_filter.mpr
      simp [inTail, notMark]
    -- The characters of the fields are counted, and those that were stripped are missing.
    have fewer : (fields query).flatten.Sublist (fields (stripEnd query)).flatten := by
      rw [← same]
      exact List.filter_sublist.flatten
    rw [flatten_fields, flatten_fields] at fewer
    have counted := fewer.length_le
    conv at counted => lhs; rw [← whole, List.filter_append, List.length_append]
    have missing := List.length_pos_of_mem lost
    omega
  · intro solid
    rw [stripEnd_of_getLast solid, List.filter_eq_self]
    simpa using lacks

namespace Http

variable {char : Char} {rest : Text}

/-! ## Escaping marks -/

/-- A mark that is escaped in a URL is no digit of an escape, and neither is its percent sign. -/
theorem pathChar_eq_self_or (char : Char) : Scope.pathChar char = [char] ∨
    isHexDigit char = false ∧ ∃ others, Scope.pathChar char = '%' :: others := by
  unfold Scope.pathChar
  split
  · exact Or.inr ⟨by decide, _, rfl⟩
  · exact Or.inr ⟨by decide, _, rfl⟩
  · exact Or.inr ⟨by decide, _, rfl⟩
  · exact Or.inl rfl

/-- So escaping the marks of a path neither makes nor breaks an escape in front of it. -/
theorem startsWithDigits_flatMap_pathChar (path : Text) :
    Percent.startsWithDigits (path.flatMap Scope.pathChar) = Percent.startsWithDigits path := by
  have percent : isHexDigit '%' = false := by decide
  cases path with
  | nil => rfl
  | cons high rest =>
      rcases pathChar_eq_self_or high with same | ⟨noDigit, others, escaped⟩
      · cases rest with
        | nil => simp [same]
        | cons low more =>
            rcases pathChar_eq_self_or low with sameLow | ⟨noDigit, others, escaped⟩
            · simp [same, sameLow, Percent.startsWithDigits]
            · simp [same, escaped, Percent.startsWithDigits, noDigit, percent]
      · rw [List.flatMap_cons, escaped, List.cons_append, Percent.startsWithDigits_cons percent,
          Percent.startsWithDigits_cons noDigit]

theorem unescape_pathChar (plain : char = '%' → Percent.startsWithDigits rest = false) :
    Percent.unescape (Scope.pathChar char ++ rest) =
      Percent.plainPiece char :: Percent.unescape rest := by
  unfold Scope.pathChar
  split
  · exact Percent.unescape_encodeByte 0x3F rest
  · exact Percent.unescape_encodeByte 0x23 rest
  · exact Percent.unescape_encodeByte 0x5C rest
  · exact Percent.unescape_of_plain plain

/-- Decoding undoes the escaping of marks, and decodes what the path had of escapes. -/
theorem unescape_flatMap_pathChar (path : Text) :
    Percent.unescape (path.flatMap Scope.pathChar) = Percent.unescape path := by
  induction path using Percent.escapeInduction with
  | nil => rfl
  | escape high low rest digits ih =>
      have kept (digit : Char) (isDigit : isHexDigit digit = true) :
          Scope.pathChar digit = [digit] := by
        rcases pathChar_eq_self_or digit with same | ⟨noDigit, -⟩
        · exact same
        · rw [isDigit] at noDigit
          cases noDigit
      have percent : Scope.pathChar '%' = ['%'] := rfl
      rcases Percent.exists_unescape_escape digits with ⟨byte, read⟩
      simp [percent, kept high digits.1, kept low digits.2, read, ih]
  | plain char rest plain ih =>
      rw [List.flatMap_cons, unescape_pathChar, Percent.unescape_of_plain plain, ih]
      rwa [startsWithDigits_flatMap_pathChar]

theorem decode_pathText (scope : Scope) :
    Percent.decode scope.pathText = Percent.decode scope.path := by
  rw [Percent.decode, Percent.decode, Scope.pathText, unescape_flatMap_pathChar]

namespace Scope

variable {scope : Scope} {host : Text}

/-! ## Visits -/

/--
A scope that names its host in plain form, with a port that can be read or without one, and whose
path is absolute and free of blanks. Its query is printable ASCII without a hash.
-/
structure Visits (scope : Scope) (host : Text) : Prop where
  scheme : isScheme scope.scheme = true
  named : scope.namedHost? = some host
  noBracket : '[' ∉ host ∧ ']' ∉ host
  port : ∃ port, Url.port? { authority := host } = .ok port
  path_start : scope.path.head? = some '/'
  path_solid : ∀ char ∈ scope.path, isBlank char = false
  printable : ∀ byte ∈ scope.query, 0x20 ≤ byte.toNat ∧ byte.toNat < 0x7F
  noFragment : ∀ byte ∈ scope.query, byte.toNat ≠ '#'.toNat

namespace Visits

/-- A scope that visits a page is legible. -/
theorem legible (visits : scope.Visits host) : scope.Legible := by
  have schemeChars := (isScheme_iff.mp visits.scheme).2
  refine ⟨⟨?_, ?_⟩, ?_, visits.printable, visits.noFragment⟩
  · intro member
    exact absurd (schemeChars '?' member) (by decide)
  · intro member
    exact absurd (schemeChars '#' member) (by decide)
  · intro unnamed
    rw [visits.named] at unnamed
    cases unnamed

theorem isPlainChar_of_mem_host (visits : scope.Visits host) :
    ∀ char ∈ host, isPlainChar char = true := by
  have hostText := isHostTextChar_of_namesHost (namesHost_of_namedHost? visits.named)
  intro char member
  have kinds := forall_ascii (fun char => isHostTextChar char = true →
    isBlank char = false ∧ endsAuthority char = false) (by decide +kernel)
    (isAscii_of_isHostTextChar (hostText char member)) (hostText char member)
  refine isPlainChar_iff.mpr ⟨isAscii_of_isHostTextChar (hostText char member), kinds.1, kinds.2,
    ?_, ?_⟩
  · rintro rfl
    exact visits.noBracket.1 member
  · rintro rfl
    exact visits.noBracket.2 member

theorem rawHost_ne_nil (visits : scope.Visits host) : rawHost host ≠ [] := by
  have named := namesHost_of_namedHost? visits.named
  have noUser : '@' ∉ host := fun member =>
    absurd (isHostTextChar_of_namesHost named '@' member) (by decide)
  simp only [rawHost, hostPart, afterLast_of_not_mem noUser, if_neg visits.noBracket.1]
  unfold namesHost at named
  split at named
  · exact absurd List.mem_cons_self visits.noBracket.1
  · simp only [Bool.and_eq_true] at named
    simpa using named.1.1

theorem isBlank_of_mem_pathText (visits : scope.Visits host) {char : Char}
    (member : char ∈ scope.pathText) : isBlank char = false := by
  rcases List.mem_flatMap.mp member with ⟨source, inPath, inSource⟩
  unfold pathChar at inSource
  split at inSource
  · exact solid_of_all (by decide) char inSource
  · exact solid_of_all (by decide) char inSource
  · exact solid_of_all (by decide) char inSource
  · rw [List.mem_singleton.mp inSource]
    exact visits.path_solid source inPath

/-- The parts of the URL of a visit in front of the query. -/
def page (scope : Scope) (host : Text) : Url where
  scheme := lowerAscii scope.scheme
  authority := host
  path := scope.pathText

/-- The page of a visit is a URL that is read as it is written. -/
theorem plain_page (visits : scope.Visits host) : (page scope host).Plain := by
  have inPath := not_mem_pathText scope
  refine ⟨isScheme_lowerAscii visits.scheme, lowerAscii_lowerAscii scope.scheme, ?_,
    visits.isPlainChar_of_mem_host, ?_, inPath.1, inPath.2, nofun,
    fun char => visits.isBlank_of_mem_pathText, nofun⟩
  · intro empty
    apply visits.rawHost_ne_nil
    have noHost : host = [] := empty
    rw [noHost]
    rfl
  · rcases List.head?_eq_some_iff.mp visits.path_start with ⟨rest, shape⟩
    have slash : pathChar '/' = ['/'] := rfl
    simp [page, pathText, shape, slash, eq_comm]

/-- The URL of a visit in front of the query. -/
def front (scope : Scope) (host : Text) : Text :=
  scope.scheme ++ "://".toList ++ host ++ scope.pathText

/-- There is no blank in front of the query. -/
theorem isBlank_of_mem_front (visits : scope.Visits host) :
    ∀ char ∈ front scope host, isBlank char = false := by
  have schemeChars := (isScheme_iff.mp visits.scheme).2
  intro char member
  simp only [front, List.mem_append] at member
  rcases member with ((scheme | slashes) | inHost) | path
  · exact isBlank_of_isSchemeChar (schemeChars char scheme)
  · exact solid_of_all (by decide) char slashes
  · exact (isPlainChar_iff.mp (visits.isPlainChar_of_mem_host char inHost)).2.1
  · exact visits.isBlank_of_mem_pathText path

theorem split_front (visits : scope.Visits host) :
    split (front scope host) = .ok (page scope host) := by
  have written := visits.plain_page.split_written
  have shape (scheme : Text) : scheme ++ "://".toList ++ host ++ scope.pathText =
      scheme ++ ':' :: ("//".toList ++ host ++ scope.pathText) := by simp
  simp only [Url.written, page, marked, List.isEmpty_nil, if_true, List.append_nil] at written
  rw [front, shape, ← split_lowerAscii visits.scheme, ← shape, written]
  rfl

theorem url_eq (visits : scope.Visits host) :
    scope.url = .ok (front scope host ++ marked '?' (Latin.decode scope.query)) := by
  apply visits.legible.url_eq
  simp [Scope.origin, visits.named]

theorem not_mem_front (visits : scope.Visits host) :
    '?' ∉ front scope host ∧ '#' ∉ front scope host := by
  have origin_eq : scope.origin = .ok (scope.scheme ++ "://".toList ++ host) := by
    simp [Scope.origin, visits.named]
  have inOrigin := visits.legible.not_mem_origin origin_eq
  have inPath := not_mem_pathText scope
  constructor
  · intro member
    exact (List.mem_append.mp member).elim inOrigin.1 inPath.1
  · intro member
    exact (List.mem_append.mp member).elim inOrigin.2 inPath.2

/-- The query of a visit loses the blanks at its end, and nothing else is lost. -/
theorem split_strip_url (visits : scope.Visits host) :
    split (strip (front scope host ++ marked '?' (Latin.decode scope.query))) =
      .ok { page scope host with query := stripEnd (Latin.decode scope.query) } := by
  have solid := visits.isBlank_of_mem_front
  have free := visits.not_mem_front
  have questionMark : isBlank '?' = false := by decide
  by_cases empty : Latin.decode scope.query = []
  · rw [empty, marked, List.isEmpty_nil, if_pos rfl, List.append_nil, strip_of_solid solid,
      visits.split_front]
    rfl
  · have quiet : Quiet (stripEnd (Latin.decode scope.query)) :=
      visits.legible.quiet_query.mono fun _ => mem_of_mem_stripEnd
    have noFragment : '#' ∉ stripEnd (Latin.decode scope.query) := fun member =>
      (visits.legible.of_mem_query (mem_of_mem_stripEnd member)).2.2 rfl
    rw [marked, if_neg (by simpa using empty), strip, stripFront_append_cons _ questionMark,
      stripFront_of_solid solid, stripEnd_append_cons _ questionMark,
      split_append_query free.1 free.2, visits.split_front, quieted_of_quiet quiet,
      before_of_not_mem noFragment, after_of_not_mem noFragment]
    rfl

/--
The URL of a visit is absolute, and its parts are those of the page and the query, without the
blanks at its end.
-/
theorem exists_parse_url (visits : scope.Visits host) :
    ∃ absolute, Absolute.parse (front scope host ++ marked '?' (Latin.decode scope.query)) =
        .ok absolute ∧
      absolute.url = { page scope host with query := stripEnd (Latin.decode scope.query) } := by
  rcases visits.port with ⟨port, port_eq⟩
  let absolute : Absolute := {
    url := { page scope host with query := stripEnd (Latin.decode scope.query) }
    host := lowerHost (rawHost host)
    port
    scheme_ne_nil := ne_nil_of_isScheme visits.plain_page.scheme
    hostname?_eq := by simp [hostname?, page, visits.rawHost_ne_nil]
    port?_eq := port_eq }
  refine ⟨absolute, Absolute.parse_of_split ?_ visits.split_strip_url, rfl⟩
  rcases List.exists_cons_of_ne_nil (ne_nil_of_isScheme visits.scheme) with ⟨head, rest, shape⟩
  have inFront : head ∈ front scope host := by simp [front, shape]
  rw [isBlankText, List.all_eq_false]
  exact ⟨head, List.mem_append_left _ inFront, by simp [visits.isBlank_of_mem_front head inFront]⟩

end Visits

/-! ## Back at the page -/

/--
The service URL of a visit without a ticket is split into a path that stands for the path of the
page exactly when that has no escape, and a query with the fields of the visit exactly when they do
not end in a space.
-/
theorem returns_to_page_iff (visits : scope.Visits host) {artifact : Text}
    (noTicket : ∀ field ∈ Query.fields (Latin.decode scope.query), before '=' field ≠ artifact) :
    ∃ url serviceUrl parts, scope.url = .ok url ∧
      ServiceUrl.ofText url artifact none = .ok serviceUrl ∧ Url.split serviceUrl = .ok parts ∧
      Percent.decode parts.path = Percent.decode scope.path ∧
      (Percent.decode parts.path = scope.path ↔
        ∀ high low, isHexDigit high = true → isHexDigit low = true →
          ¬['%', high, low] <:+: scope.path) ∧
      (Query.fields parts.query = Query.fields (Latin.decode scope.query) ↔
        (Latin.decode scope.query).getLast? ≠ some ' ') := by
  rcases visits.exists_parse_url with ⟨absolute, parsed, url_eq⟩
  have sound := absolute.sound (Absolute.parse_eq_ok parsed).2
  have split_service := (sound.withoutField artifact).split_written
  have pathDecoded : Percent.decode absolute.url.path = Percent.decode scope.path := by
    rw [url_eq]
    exact decode_pathText scope
  refine ⟨_, _, _, visits.url_eq, ServiceUrl.ofText_of_parse parsed artifact, split_service,
    pathDecoded, ?_, ?_⟩
  · rw [← Percent.decode_eq_self_iff, ← pathDecoded]
    rfl
  · have query_eq : (absolute.url.withoutField artifact).query =
        Query.without artifact (stripEnd (Latin.decode scope.query)) := by
      rw [withoutField, url_eq]
    simp only [query_eq, Query.fields_without_stripEnd_eq_iff noTicket]
    constructor
    · intro solid isLast
      exact absurd (solid ' ' isLast) (by decide)
    · intro noSpace char isLast
      have printable := visits.legible.of_mem_query (List.mem_of_getLast? isLast)
      have notSpace : char ≠ ' ' := by
        rintro rfl
        exact noSpace isLast
      have ascii : isAscii char = true := by
        rw [isAscii, decide_eq_true_eq]
        omega
      exact forall_ascii (fun char => 0x20 ≤ char.toNat → char ≠ ' ' → isBlank char = false)
        (by decide +kernel) ascii printable.1 notSpace

/-- A visit to a file whose name has an escape, a question mark and a hash. -/
def escapedPage : Scope where
  scheme := "HTTP".toList
  path := "/files/100%25?#.txt".toList
  query := Utf8.encode "lang=de&&x=a+b".toList
  headers := [("host".toList, "app.example.org:8080".toList)]

/--
The escape in the name of the file is undone once more, so that the login leads to another file.
-/
theorem returns_elsewhere_from_escaped_page :
    ∃ url serviceUrl parts, escapedPage.url = .ok url ∧
      ServiceUrl.ofText url "ticket".toList none = .ok serviceUrl ∧
      Url.split serviceUrl = .ok parts ∧
      Percent.decode parts.path = "/files/100%?#.txt".toList ∧
      Percent.decode parts.path ≠ escapedPage.path ∧
      Query.fields parts.query = ["lang=de".toList, "x=a+b".toList] := by
  have visits : escapedPage.Visits "app.example.org:8080".toList :=
    ⟨by decide, by decide +kernel, by decide, ⟨some 8080, by decide +kernel⟩, by decide,
      solid_of_all (by decide), by decide +kernel, by decide +kernel⟩
  have known : Query.fields (Latin.decode escapedPage.query) =
      ["lang=de".toList, "x=a+b".toList] := by
    decide +kernel
  have noTicket : ∀ field ∈ Query.fields (Latin.decode escapedPage.query),
      before '=' field ≠ "ticket".toList := by
    simp [known, before]
  rcases returns_to_page_iff visits noTicket with
    ⟨url, serviceUrl, parts, url_eq, service_eq, split_service, decoded, samePath, sameQuery⟩
  refine ⟨url, serviceUrl, parts, url_eq, service_eq, split_service, ?_, ?_, ?_⟩
  · rw [decoded]
    decide +kernel
  · intro same
    apply samePath.mp same '2' '5' rfl rfl
    exact ⟨"/files/100".toList, "?#.txt".toList, rfl⟩
  · rw [sameQuery.mpr (by decide +kernel), known]

end Scope

end Http

end SignOnGate
