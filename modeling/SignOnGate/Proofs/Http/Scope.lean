import SignOnGate.Http.Scope
import SignOnGate.Proofs.Request
import SignOnGate.Proofs.Text.Utf8
import SignOnGate.Proofs.Url.Marks
import SignOnGate.Proofs.Url.Quiet

/-!
# Parameters of scopes

A scope can be read in two ways. The request that stands for it has the parameters in the bytes of
the query, each with its last value. A request to the URL of the scope has the parameters in the
query that is split off that URL, each with its first value. As long as the query survives being put
into the URL, the two agree on a name exactly when its first value is its last one.
-/

namespace SignOnGate

open Text

/-- The values of a name in a query, in order. -/
def Query.values (name query : Text) : List Text :=
  ((parse query).filter (·.1 = name)).map Prod.snd

/-- A request to a URL has the first value of a name. -/
theorem Request.parameter?_ofUrl {url : Text} {parts : Url} (split_url : Url.split url = .ok parts)
    (headers : List (Text × Text)) (name : Text) :
    (Request.ofFields url headers none).parameter? name =
      (Query.values name parts.query).head? := by
  rw [parameter?_ofFields split_url, Query.values, List.head?_map, List.head?_filter]

theorem Latin.exists_of_mem_decode {bytes : List UInt8} {char : Char}
    (member : char ∈ Latin.decode bytes) : ∃ byte ∈ bytes, char.toNat = byte.toNat := by
  rcases List.mem_map.mp member with ⟨byte, listed, rfl⟩
  have valid : byte.toNat.isValidChar := Or.inl (byte.toNat_lt.trans (by decide))
  refine ⟨byte, listed, ?_⟩
  rw [Char.ofNat, dif_pos valid]
  rfl

namespace Http

variable {text : Text} {char : Char}

/-! ## Named hosts -/

/-- A character of a text that names a host. -/
def isHostTextChar (char : Char) : Bool :=
  isNameChar char || "%:[]".toList.contains char

theorem isAscii_of_isHostTextChar (hostText : isHostTextChar char = true) :
    isAscii char = true := by
  simp only [isHostTextChar, isNameChar, Bool.or_eq_true, List.contains_eq_mem,
    decide_eq_true_eq] at hostText
  rcases hostText with (alphanumeric | nameMark) | mark
  · exact isAscii_of_isAlphanum alphanumeric
  · exact List.all_eq_true.mp (by decide) char nameMark
  · exact List.all_eq_true.mp (by decide) char mark

theorem isHostTextChar_of_isHexDigit (digit : isHexDigit char = true) :
    isHostTextChar char = true :=
  forall_ascii (fun char => isHexDigit char = true → isHostTextChar char = true) (by decide +kernel)
    (isAscii_of_isHexDigit digit) digit

theorem isHostTextChar_of_isNameText (named : isNameText text = true) :
    ∀ char ∈ text, isHostTextChar char = true := by
  fun_induction isNameText text with
  | case1 => simp
  | case2 high low rest ih =>
      simp only [Bool.and_eq_true] at named
      simp only [List.forall_mem_cons]
      refine ⟨by decide, ?_, ?_, ih named.2⟩
      · exact isHostTextChar_of_isHexDigit named.1.1
      · exact isHostTextChar_of_isHexDigit named.1.2
  | case3 head rest _ ih =>
      simp only [Bool.and_eq_true] at named
      simp only [List.forall_mem_cons]
      refine ⟨?_, ih named.2⟩
      simp [isHostTextChar, named.1]

theorem isHostTextChar_of_isPortPart (port : isPortPart text = true) :
    ∀ char ∈ text, isHostTextChar char = true := by
  cases text with
  | nil => simp
  | cons head rest =>
      simp only [isPortPart, Bool.and_eq_true, beq_iff_eq, List.all_eq_true] at port
      intro char member
      rcases List.mem_cons.mp member with rfl | digit
      · rw [port.1]
        decide
      · simp [isHostTextChar, isNameChar, Char.isAlphanum, port.2 char digit]

/-- Every character of a text that names a host is one of host texts. -/
theorem isHostTextChar_of_namesHost (named : namesHost text = true) :
    ∀ char ∈ text, isHostTextChar char = true := by
  unfold namesHost at named
  split at named
  · rename_i rest
    simp only [Bool.and_eq_true, List.all_eq_true, List.contains_eq_mem, decide_eq_true_eq] at named
    rcases named with ⟨⟨⟨-, address⟩, closing⟩, port⟩
    rw [← before_append_after closing]
    intro char member
    simp only [List.mem_cons, List.mem_append] at member
    rcases member with rfl | inAddress | rfl | inPort
    · decide
    · have inside := address char inAddress
      simp only [Bool.or_eq_true, beq_iff_eq] at inside
      rcases inside with (digit | rfl) | rfl
      · exact isHostTextChar_of_isHexDigit digit
      · decide
      · decide
    · decide
    · exact isHostTextChar_of_isPortPart port char inPort
  · simp only [Bool.and_eq_true] at named
    intro char member
    rw [← List.take_append_drop (before ':' text).length text] at member
    rcases List.mem_append.mp member with inName | inPort
    · have front : text.take (before ':' text).length = before ':' text :=
        (List.prefix_iff_eq_take.mp (List.takeWhile_prefix _)).symm
      rw [front] at inName
      exact isHostTextChar_of_isNameText named.1.2 char inName
    · exact isHostTextChar_of_isPortPart named.2 char inPort

namespace Scope

variable {scope : Scope} {origin url name : Text}

/-! ## URLs of scopes -/

/--
A scope whose query is printable ASCII, and of which nothing that stands in front of the query looks
like the beginning of one. The server only matters when the headers name no host.
-/
structure Legible (scope : Scope) : Prop where
  scheme : '?' ∉ scope.scheme ∧ '#' ∉ scope.scheme
  server : scope.namedHost? = none → ∀ server ∈ scope.server, '?' ∉ server.1 ∧ '#' ∉ server.1
  printable : ∀ byte ∈ scope.query, 0x20 ≤ byte.toNat ∧ byte.toNat < 0x7F
  noFragment : ∀ byte ∈ scope.query, byte.toNat ≠ '#'.toNat

theorem namesHost_of_namedHost? {host : Text} (hosted : scope.namedHost? = some host) :
    namesHost host = true := by
  rw [namedHost?, Option.filter_eq_some_iff] at hosted
  exact hosted.2

/-- In a URL, the marks of a path are escaped. -/
theorem not_mem_pathText (scope : Scope) : '?' ∉ scope.pathText ∧ '#' ∉ scope.pathText := by
  have free (source : Char) : '?' ∉ pathChar source ∧ '#' ∉ pathChar source := by
    unfold pathChar
    split
    · decide
    · decide
    · decide
    · rename_i noQuery noFragment _
      simpa [eq_comm] using And.intro noQuery noFragment
  constructor
  · intro member
    rcases List.mem_flatMap.mp member with ⟨source, -, inSource⟩
    exact (free source).1 inSource
  · intro member
    rcases List.mem_flatMap.mp member with ⟨source, -, inSource⟩
    exact (free source).2 inSource

theorem not_mem_ofInt (number : Int) : '?' ∉ ofInt number ∧ '#' ∉ ofInt number := by
  have inDigits (value : Nat) : '?' ∉ ofNat value ∧ '#' ∉ ofNat value := by
    constructor
    · intro member
      exact absurd (isDigit_of_mem_ofNat member) (by decide)
    · intro member
      exact absurd (isDigit_of_mem_ofNat member) (by decide)
  cases number with
  | ofNat value => exact inDigits value
  | negSucc value => simp [ofInt, inDigits (value + 1)]

namespace Legible

theorem decodeStrict_query (legible : scope.Legible) :
    Utf8.decodeStrict scope.query = some (Latin.decode scope.query) := by
  apply Utf8.decodeStrict_of_ascii
  intro byte member
  have bounds := legible.printable byte member
  omega

/-- A character of the query is printable, and no hash. -/
theorem of_mem_query (legible : scope.Legible) (member : char ∈ Latin.decode scope.query) :
    0x20 ≤ char.toNat ∧ char.toNat < 0x7F ∧ char ≠ '#' := by
  rcases Latin.exists_of_mem_decode member with ⟨byte, listed, code⟩
  have bounds := legible.printable byte listed
  refine ⟨by omega, by omega, ?_⟩
  rintro rfl
  exact legible.noFragment byte listed code.symm

theorem quiet_query (legible : scope.Legible) : Quiet (Latin.decode scope.query) := by
  intro char member
  apply Url.isInnerNoise_of_space_le
  exact (legible.of_mem_query member).1

/-- Neither a query nor a fragment begins in front of the path. -/
theorem not_mem_origin (legible : scope.Legible) (origin_eq : scope.origin = .ok origin) :
    '?' ∉ origin ∧ '#' ∉ origin := by
  have inHost (host : Text) (hosted : scope.namedHost? = some host) : '?' ∉ host ∧ '#' ∉ host := by
    have hostText := isHostTextChar_of_namesHost (namesHost_of_namedHost? hosted)
    constructor
    · intro member
      exact absurd (hostText '?' member) (by decide)
    · intro member
      exact absurd (hostText '#' member) (by decide)
  simp only [Scope.origin] at origin_eq
  split at origin_eq
  · rename_i host hosted
    cases origin_eq
    simp [legible.scheme, inHost host hosted]
  · cases origin_eq
    simp
  · rename_i host port unhosted served
    have server := legible.server unhosted (host, port) served
    split at origin_eq
    · cases origin_eq
    · cases origin_eq
      have inPort := not_mem_ofInt port
      split <;> simp [legible.scheme, server, inPort]

/-- The URL of a scope is its origin, its path and its query, one behind the other. -/
theorem url_eq (legible : scope.Legible) (origin_eq : scope.origin = .ok origin) :
    scope.url = .ok (origin ++ scope.pathText ++ Url.marked '?' (Latin.decode scope.query)) := by
  simp only [Scope.url, origin_eq, legible.decodeStrict_query]
  split
  · rename_i empty
    simp [empty, Latin.decode, Url.marked]
  · rename_i nonempty
    simp [nonempty, Latin.decode, Url.marked]

/-- A scope that names a host has a URL. -/
theorem exists_url (legible : scope.Legible) (hosted : scope.namedHost? ≠ none) :
    ∃ url, scope.url = .ok url := by
  rcases Option.ne_none_iff_exists'.mp hosted with ⟨host, host_eq⟩
  have origin_eq : scope.origin = .ok (scope.scheme ++ "://".toList ++ host) := by
    simp [Scope.origin, host_eq]
  exact ⟨_, legible.url_eq origin_eq⟩

/-- The query comes through the URL unchanged. -/
theorem query_of_split (legible : scope.Legible) (url_eq : scope.url = .ok url) {parts : Url}
    (split_url : Url.split url = .ok parts) : parts.query = Latin.decode scope.query := by
  cases origin_eq : scope.origin with
  | error cause =>
      simp [Scope.url, origin_eq] at url_eq
  | ok origin =>
      rw [legible.url_eq origin_eq, Except.ok.injEq] at url_eq
      subst url_eq
      have inOrigin := legible.not_mem_origin origin_eq
      have inPath := not_mem_pathText scope
      have noQuery : '?' ∉ origin ++ scope.pathText := by simp [inOrigin, inPath]
      have noFragment : '#' ∉ origin ++ scope.pathText := by simp [inOrigin, inPath]
      have inQuery : '#' ∉ Latin.decode scope.query := fun member =>
        (legible.of_mem_query member).2.2 rfl
      rw [Url.split_append_marked noQuery noFragment inQuery legible.quiet_query] at split_url
      cases split_front : Url.split (origin ++ scope.pathText) with
      | error fault =>
          rw [split_front] at split_url
          cases split_url
      | ok front =>
          rw [split_front] at split_url
          cases split_url
          rfl

end Legible

/-! ## The two readings -/

theorem parameter?_request (scope : Scope) (name : Text) :
    scope.request.parameter? name = (Query.values name (Latin.decode scope.query)).getLast? := by
  rw [Request.parameter?, request, OrderedMap.get?_ofPairs, Query.values]

/--
The request that stands for a scope has the last value of a name, and a request to the URL of the
scope has the first one, if the URL can be split at all. So they agree on a name that the query does
not have, and on one whose first value is its last one in a URL that can be split, and on no other.
-/
theorem readings_agree_iff (legible : scope.Legible) (headers : List (Text × Text)) (name : Text) :
    (scope.namedHost? ≠ none → ∃ url, scope.url = .ok url) ∧
      ∀ url, scope.url = .ok url →
        scope.request.parameter? name =
            (Query.values name (Latin.decode scope.query)).getLast? ∧
          (∀ parts, Url.split url = .ok parts →
            (Request.ofFields url headers none).parameter? name =
              (Query.values name (Latin.decode scope.query)).head?) ∧
          (scope.request.parameter? name = (Request.ofFields url headers none).parameter? name ↔
            Query.values name (Latin.decode scope.query) = [] ∨
              (∃ parts, Url.split url = .ok parts) ∧
                (Query.values name (Latin.decode scope.query)).head? =
                  (Query.values name (Latin.decode scope.query)).getLast?) := by
  refine ⟨legible.exists_url, ?_⟩
  intro url url_eq
  have ofScope := parameter?_request scope name
  have ofUrl (parts : Url) (split_url : Url.split url = .ok parts) :
      (Request.ofFields url headers none).parameter? name =
        (Query.values name (Latin.decode scope.query)).head? := by
    rw [Request.parameter?_ofUrl split_url, legible.query_of_split url_eq split_url]
  refine ⟨ofScope, ofUrl, ?_⟩
  rw [ofScope]
  cases split_url : Url.split url with
  | error fault =>
      rw [Request.parameter?_ofFields_of_error split_url, List.getLast?_eq_none_iff]
      simp
  | ok parts =>
      rw [ofUrl parts split_url]
      cases Query.values name (Latin.decode scope.query) <;> simp [eq_comm]

/-- A visit to `/home?ticket=ST-1&lang=de&&ticket=` that names its host. -/
def repeatedTicket : Scope where
  scheme := "http".toList
  path := "/home".toList
  query := Utf8.encode "ticket=ST-1&lang=de&&ticket=".toList
  headers := [("host".toList, "app.example.org:8080".toList)]

/-- Of a ticket that is given twice, the scope has the last value and the URL the first one. -/
theorem readings_differ_at_repeated_ticket :
    ∃ url, repeatedTicket.url = .ok url ∧
      repeatedTicket.request.parameter? "ticket".toList = some [] ∧
      (Request.ofFields url [] none).parameter? "ticket".toList = some "ST-1".toList ∧
      repeatedTicket.request.parameter? "lang".toList =
        (Request.ofFields url [] none).parameter? "lang".toList := by
  have legible : repeatedTicket.Legible :=
    ⟨by decide, by decide +kernel, by decide +kernel, by decide +kernel⟩
  have ticket := readings_agree_iff legible [] "ticket".toList
  have lang := readings_agree_iff legible [] "lang".toList
  rcases ticket.1 (by decide +kernel) with ⟨url, url_eq⟩
  rcases ticket.2 url url_eq with ⟨last, first, -⟩
  have known : repeatedTicket.url.toOption.map (fun url => (Url.split url).toOption.isSome) =
      some true := by
    decide +kernel
  rw [url_eq] at known
  cases split_url : Url.split url with
  | error fault => simp [split_url, Except.toOption] at known
  | ok parts =>
      refine ⟨url, url_eq, ?_, ?_, ?_⟩
      · rw [last]
        decide +kernel
      · rw [first parts split_url]
        decide +kernel
      · rw [(lang.2 url url_eq).2.2]
        refine Or.inr ⟨⟨parts, split_url⟩, ?_⟩
        decide +kernel

end Scope

end Http

end SignOnGate
