import SignOnGate.Proofs.ServiceUrl
import SignOnGate.Proofs.Url.Marks
import SignOnGate.Proofs.Url.Spelling

/-!
# Server names as origins

Whether a server name is a whole origin or only a host is judged by its first characters as they are
written, while a URL is read without the blanks around it and with its scheme in any letters. So a
name that stands for an origin as a URL becomes the origin of the service URLs exactly when it is
spelled out: with the scheme in small letters at the very front, and with nothing behind the
authority but slashes. In any other spelling, a part of the name ends up in the path, or a blank in
the host or in the port.
-/

namespace SignOnGate

open Text

namespace Url

variable {url parts : Url} {authority host tail scheme name rest : Text}

/-! ## Blanks behind an authority -/

/-- A host is not the same in small letters with something behind it. -/
theorem eq_nil_of_lowerHost_append (same : lowerHost (host ++ tail) = lowerHost host) :
    tail = [] := by
  have lengths := congrArg (fun host => (lower host).length) same
  simp only [lower_lowerHost, length_lower_append] at lengths
  have nothing : lower tail = [] := by
    apply List.eq_nil_of_length_eq_zero
    omega
  by_contra nonempty
  exact lowerFrom_ne_nil false nonempty nothing

/-- What is written behind an accepted authority goes to the end of its host or of its port. -/
theorem raw_append (free : ∀ mark ∈ ['@', '[', ']', ':'], mark ∉ tail)
    (checked : checkBrackets (authority ++ tail) = .ok ()) :
    tail = [] ∨ rawHost (authority ++ tail) = rawHost authority ++ tail ∨
      ∃ digits, rawPort (authority ++ tail) = digits ++ tail := by
  simp only [List.forall_mem_cons] at free
  rcases free with ⟨noUser, noOpening, noClosing, noColon, -⟩
  have part : hostPart (authority ++ tail) = hostPart authority ++ tail :=
    afterLast_append_of_not_mem authority noUser
  by_cases opening : '[' ∈ hostPart authority
  · have openingToo : '[' ∈ hostPart authority ++ tail := List.mem_append_left _ opening
    by_cases closing : ']' ∈ after '[' (hostPart authority)
    · have behind : after ']' (after '[' (hostPart authority ++ tail)) =
          after ']' (after '[' (hostPart authority)) ++ tail := by
        rw [after_append_of_mem_left opening, after_append_of_mem_left closing]
      have follows := (brackets_of_opening (by rwa [part]) checked).2.2.1
      rw [part, behind] at follows
      -- Only a port may stand behind the brackets, so a tail right behind them has a colon.
      cases shape : after ']' (after '[' (hostPart authority)) with
      | nil =>
          rw [shape, List.nil_append] at follows
          rcases follows with nothing | isHead
          · exact Or.inl nothing
          · exact absurd (List.mem_of_head? isHead) noColon
      | cons first digits =>
          rw [shape] at follows
          have isColon : first = ':' := by simpa using follows
          refine Or.inr (Or.inr ⟨digits, ?_⟩)
          simp only [rawPort, part, if_pos openingToo]
          rw [behind, shape, isColon]
          rfl
    · have noClosingAtAll : ']' ∉ after '[' (hostPart authority) ++ tail := by
        simp [closing, noClosing]
      refine Or.inr (Or.inl ?_)
      simp only [rawHost, part, if_pos openingToo, if_pos opening]
      rw [after_append_of_mem_left opening, before_of_not_mem noClosingAtAll,
        before_of_not_mem closing]
  · have noOpeningAtAll : '[' ∉ hostPart authority ++ tail := by simp [opening, noOpening]
    by_cases colon : ':' ∈ hostPart authority
    · refine Or.inr (Or.inr ⟨after ':' (hostPart authority), ?_⟩)
      simp only [rawPort, part, if_neg noOpeningAtAll]
      exact after_append_of_mem_left colon tail
    · have noColonAtAll : ':' ∉ hostPart authority ++ tail := by simp [colon, noColon]
      refine Or.inr (Or.inl ?_)
      simp only [rawHost, part, if_neg noOpeningAtAll, if_neg opening]
      rw [before_of_not_mem noColonAtAll, before_of_not_mem colon]

/-- Blanks behind an authority change its host or spoil its port. -/
theorem eq_nil_of_blanks (authority_eq : url.authority = authority ++ tail)
    (blanks : ∀ char ∈ tail, isBlank char = true) (checked : checkBrackets url.authority = .ok ())
    (host_eq : lowerHost (rawHost url.authority) = lowerHost (rawHost authority))
    {port : Option Nat} (port_eq : url.port? = .ok port) : tail = [] := by
  have free (mark : Char) (solid : isBlank mark = false) : mark ∉ tail := by
    intro member
    rw [blanks mark member] at solid
    cases solid
  have noMark : ∀ mark ∈ ['@', '[', ']', ':'], mark ∉ tail := by
    intro mark isMark
    apply free mark
    exact solid_of_all (by decide) mark isMark
  rw [authority_eq] at checked host_eq
  rcases raw_append noMark checked with nothing | longer | ⟨digits, port_text⟩
  · exact nothing
  · rw [longer] at host_eq
    exact eq_nil_of_lowerHost_append host_eq
  · rw [List.eq_nil_iff_forall_not_mem]
    intro char member
    have digit : char.isDigit = true := by
      apply isDigit_of_mem_rawPort port_eq
      simp [authority_eq, port_text, member]
    have solid := (isPlainChar_iff.mp (isPlainChar_of_isDigit digit)).2.1
    exact free char solid member

/-! ## Behind a scheme -/

theorem sublist_splitScheme (text : Text) : (splitScheme text).2.Sublist text := by
  rw [splitScheme]
  split
  · exact (List.drop_sublist 1 _).trans (List.dropWhile_sublist _)
  · exact List.Sublist.refl text

theorem sublist_cleaned (text : Text) : (cleaned text).Sublist text :=
  List.filter_sublist.trans (List.dropWhile_sublist _)

/-- What a split finds behind a scheme that it accepts. -/
theorem split_append_eq_ok (isScheme_scheme : isScheme scheme = true)
    (split_text : split (scheme ++ "://".toList ++ rest) = .ok parts) :
    parts.scheme = lowerAscii scheme ∧ checkBrackets parts.authority = .ok () ∧
      ∃ behind, splitAuthority ('/' :: '/' :: quieted rest) = (parts.authority, behind) ∧
        parts.path = before '?' (before '#' behind) := by
  have shape : scheme ++ "://".toList ++ rest = scheme ++ ':' :: '/' :: '/' :: rest := by simp
  rw [shape] at split_text
  rcases split_eq_ok split_text with
    ⟨text, behind, scheme_eq, authority_eq, brackets, -, path_eq, -⟩
  rw [splitScheme_cleaned_append isScheme_scheme] at scheme_eq
  rcases Prod.mk.inj scheme_eq with ⟨small, rfl⟩
  exact ⟨small.symm, brackets, behind, authority_eq, path_eq⟩

/-- Tabs and line ends behind a scheme make no difference to a split. -/
theorem split_quieted (isScheme_scheme : isScheme scheme = true) (rest : Text) :
    split (quieted (scheme ++ ':' :: rest)) = split (scheme ++ ':' :: rest) := by
  have shape : quieted (scheme ++ ':' :: rest) = scheme ++ ':' :: quieted rest := by
    rw [quieted_append, quieted_of_quiet (isInnerNoise_of_mem_scheme isScheme_scheme)]
    rfl
  have again : (quieted rest).filter (!isInnerNoise ·) = rest.filter (!isInnerNoise ·) := by
    simp [quieted]
  rw [shape]
  simp only [split, splitScheme_cleaned_append isScheme_scheme, again]

/-- A slash in a name goes to the front of the path, with all that stands behind it in the name. -/
theorem path_ne_of_slash (isScheme_scheme : isScheme scheme = true) (slash : '/' ∈ name)
    (noQuery : '?' ∉ name) (noFragment : '#' ∉ name) (sound : url.Sound)
    (split_text : split (scheme ++ "://".toList ++ (name ++ (url.path ++ marked '?' url.query))) =
      .ok parts) : parts.path ≠ url.path := by
  rcases split_append_eq_ok isScheme_scheme split_text with ⟨-, -, behind, authority_eq, path_eq⟩
  let added := (quieted name).dropWhile (!endsAuthority ·)
  have added_ne_nil : added ≠ [] := by
    intro nothing
    have slashToo : '/' ∈ quieted name := List.mem_filter.mpr ⟨slash, by decide⟩
    exact absurd (List.dropWhile_eq_nil_iff.mp nothing '/' slashToo) (by decide)
  have inAdded (char : Char) (member : char ∈ added) : char ∈ name :=
    mem_of_mem_quieted (List.dropWhile_subset _ member)
  have behind_eq : behind = added ++ (url.path ++ marked '?' url.query) := by
    rw [quieted_append, quieted_of_quiet sound.quiet_written] at authority_eq
    rw [← (Prod.mk.inj authority_eq).2, List.dropWhile_append, if_neg]
    rwa [List.isEmpty_iff]
  have noFragmentAtAll : '#' ∉ behind := by
    rw [behind_eq, List.mem_append, not_or]
    exact ⟨fun member => noFragment (inAdded '#' member), sound.noFragment_written⟩
  have noQueryInFront : '?' ∉ added ++ url.path := by
    rw [List.mem_append, not_or]
    exact ⟨fun member => noQuery (inAdded '?' member), sound.path_noQuery⟩
  rw [path_eq, before_of_not_mem noFragmentAtAll, behind_eq, ← List.append_assoc,
    before_append_marked _ noQueryInFront]
  simpa using added_ne_nil

/-- Parts at another origin. -/
theorem Sound.moved (sound : url.Sound) {origin : Url} (sound_origin : origin.Sound) :
    { url with scheme := origin.scheme, authority := origin.authority }.Sound :=
  ⟨sound_origin.scheme, sound_origin.scheme_small, sound_origin.authority_ne_nil,
    sound_origin.authority_inside, sound_origin.authority_quiet, sound_origin.brackets,
    sound_origin.noHidden, sound.path_start, sound.path_noQuery, sound.path_noFragment,
    sound.path_quiet, sound.query_noFragment, sound.query_quiet⟩

end Url

namespace ServiceUrl

open Url

variable {text name scheme host : Text} {origin absolute : Absolute}

/-! ## Server names -/

/-- A server name loses nothing but slashes at its end. -/
theorem exists_append_slashes (name : Text) :
    ∃ slashes, withoutEndSlashes name ++ slashes = name ∧ ∀ char ∈ slashes, char = '/' := by
  refine ⟨name.rtakeWhile (· == '/'), List.rdropWhile_append_rtakeWhile, ?_⟩
  intro char member
  simpa using List.mem_rtakeWhile_imp member

theorem exists_of_hasScheme (spelled : hasScheme name = true) :
    ∃ scheme host, isScheme scheme = true ∧ lowerAscii scheme = scheme ∧
      name = scheme ++ "://".toList ++ host := by
  rw [hasScheme, Bool.or_eq_true, List.isPrefixOf_iff_prefix, List.isPrefixOf_iff_prefix] at spelled
  rcases spelled with ⟨host, rfl⟩ | ⟨host, rfl⟩
  · exact ⟨"http".toList, host, by decide, by decide, rfl⟩
  · exact ⟨"https".toList, host, by decide, by decide, rfl⟩

/-- The slashes of an absolute URL do not all stand at its end. -/
theorem slash_mem_withoutEndSlashes (named : Absolute.parse name = .ok origin) :
    '/' ∈ withoutEndSlashes name := by
  have authority_ne_nil := authority_ne_nil_of_hostname origin.hostname?_eq
  rcases split_eq_ok (Absolute.parse_eq_ok named).2 with
    ⟨rest, behind, scheme_eq, authority_eq, -⟩
  rcases splitAuthority_eq authority_ne_nil authority_eq with ⟨rfl, inside, -⟩
  rcases List.exists_cons_of_ne_nil authority_ne_nil with ⟨first, others, authority_shape⟩
  have notSlash : first ≠ '/' := by
    rintro rfl
    exact absurd (inside '/' (by simp [authority_shape])) (by decide)
  have ordered : ['/', first].Sublist name := by
    have inRest : ['/', first].Sublist (splitScheme (cleaned (strip name))).2 := by
      rw [scheme_eq, authority_shape]
      simp
    exact inRest.trans
      ((sublist_splitScheme _).trans ((sublist_cleaned _).trans (sublist_strip name)))
  rcases exists_append_slashes name with ⟨slashes, whole, areSlashes⟩
  rw [← whole, List.sublist_append_iff] at ordered
  rcases ordered with ⟨front, back, shape, inName, inSlashes⟩
  cases front with
  | nil =>
      rw [List.nil_append] at shape
      have member : first ∈ slashes := inSlashes.subset (by simp [← shape])
      exact absurd (areSlashes first member) notSlash
  | cons head tail =>
      have isSlash : '/' = head := (List.cons.inj shape).1
      rw [isSlash]
      exact inName.subset List.mem_cons_self

/-- Stripping a server name leaves its scheme alone. -/
theorem strip_of_scheme (isScheme_scheme : isScheme scheme = true) (rest : Text) :
    strip (scheme ++ "://".toList ++ rest) = scheme ++ "://".toList ++ stripEnd rest := by
  have solid : ∀ char ∈ scheme ++ ":/".toList, isBlank char = false := by
    intro char member
    rcases List.mem_append.mp member with inScheme | mark
    · exact isBlank_of_isSchemeChar ((isScheme_iff.mp isScheme_scheme).2 char inScheme)
    · exact solid_of_all (by decide) char mark
  have slash : isBlank '/' = false := by decide
  have shape (rest : Text) :
      scheme ++ "://".toList ++ rest = (scheme ++ ":/".toList) ++ '/' :: rest := by
    simp
  rw [strip, shape, stripFront_append_cons _ slash, stripFront_of_solid solid,
    stripEnd_append_cons _ slash, ← shape]

/--
A server name that is nothing but a scheme and a host is the authority of its URL, with blanks.
-/
theorem exists_blanks (named : Absolute.parse name = .ok origin)
    (isScheme_scheme : isScheme scheme = true)
    (bare : withoutEndSlashes name = scheme ++ "://".toList ++ host)
    (inside : ∀ char ∈ host, endsAuthority char = false) :
    ∃ blanks, quieted host = origin.url.authority ++ blanks ∧
      ∀ char ∈ blanks, isBlank char = true := by
  rcases exists_append_slashes name with ⟨slashes, whole, areSlashes⟩
  have split_name := (Absolute.parse_eq_ok named).2
  rw [← whole, bare, List.append_assoc, strip_of_scheme isScheme_scheme] at split_name
  rcases split_append_eq_ok isScheme_scheme split_name with ⟨-, -, behind, authority_eq, -⟩
  have quietedInside (text : Text) (subset : text ⊆ host) :
      ∀ char ∈ quieted text, endsAuthority char = false :=
    fun char member => inside char (subset (mem_of_mem_quieted member))
  cases slashes with
  | nil =>
      have fromHost : stripEnd host ⊆ host := fun _ => mem_of_mem_stripEnd
      have nothingStops : ∀ char ∈ ([] : Text).head?, endsAuthority char = true := nofun
      have stripped :=
        splitAuthority_of_inside (quietedInside (stripEnd host) fromHost) nothingStops
      rw [List.append_nil] at authority_eq stripped
      rw [stripped] at authority_eq
      refine ⟨quieted (host.rtakeWhile isBlank), ?_, ?_⟩
      · rw [← (Prod.mk.inj authority_eq).1, ← quieted_append, stripEnd_append_rtakeWhile]
      · intro char member
        exact List.mem_rtakeWhile_imp (mem_of_mem_quieted member)
  | cons first others =>
      have isSlash : first = '/' := areSlashes first List.mem_cons_self
      have slash : isBlank '/' = false := by decide
      have kept : quieted (stripEnd (host ++ '/' :: others)) =
          quieted host ++ '/' :: quieted (stripEnd others) := by
        rw [stripEnd_append_cons host slash, quieted_append]
        rfl
      have stops :
          ∀ char ∈ ('/' :: quieted (stripEnd others)).head?, endsAuthority char = true := by
        intro char isHead
        cases isHead
        rfl
      rw [isSlash, kept,
        splitAuthority_of_inside (quietedInside host (List.Subset.refl host)) stops]
        at authority_eq
      exact ⟨[], by rw [(Prod.mk.inj authority_eq).1, List.append_nil], nofun⟩

/--
A server name that spells its origin out: it begins with its scheme, in small letters, and apart
from slashes at the end, and from tabs and line ends, it is the scheme and the authority.
-/
def SpellsOut (name : Text) (origin : Absolute) : Prop :=
  hasScheme (withoutEndSlashes name) = true ∧
    quieted (withoutEndSlashes name) = origin.url.scheme ++ "://".toList ++ origin.url.authority

theorem origin_of_ne_nil (url : Url) (name_ne_nil : name ≠ []) :
    ServiceUrl.origin url (some name) =
      if hasScheme (withoutEndSlashes name) then withoutEndSlashes name
      else url.scheme ++ "://".toList ++ withoutEndSlashes name := by
  cases name with
  | nil => exact absurd rfl name_ne_nil
  | cons head rest => rfl

/-- A name that spells its origin out is the origin of the service URL. -/
theorem split_of_spellsOut (spelled : SpellsOut name origin) (sound_origin : origin.url.Sound)
    {page : Url} (sound : page.Sound) :
    split (withoutEndSlashes name ++ (page.path ++ marked '?' page.query)) = .ok {
      page with
      scheme := origin.url.scheme
      authority := origin.url.authority
      fragment := [] } := by
  rcases spelled with ⟨hasScheme_name, quieted_name⟩
  rcases exists_of_hasScheme hasScheme_name with ⟨scheme, host, isScheme_scheme, -, bare⟩
  have shape : withoutEndSlashes name ++ (page.path ++ marked '?' page.query) =
      scheme ++ ':' :: ("//".toList ++ (host ++ (page.path ++ marked '?' page.query))) := by
    simp [bare]
  rw [shape, ← split_quieted isScheme_scheme, ← shape, quieted_append, quieted_name,
    quieted_of_quiet sound.quiet_written, ← List.append_assoc]
  exact (sound.moved sound_origin).split_written

/-- Where the service URL has the host and the port of the origin, no blank stands in the name. -/
theorem quieted_host_eq (named : Absolute.parse name = .ok origin)
    (isScheme_scheme : isScheme scheme = true)
    (bare : withoutEndSlashes name = scheme ++ "://".toList ++ host)
    (inside : ∀ char ∈ host, endsAuthority char = false) {page parts : Url} (sound : page.Sound)
    (split_service : split (scheme ++ "://".toList ++
      (host ++ (page.path ++ marked '?' page.query))) = .ok parts)
    (hostname_eq : parts.hostname? = some origin.host) (port_eq : parts.port? = .ok origin.port) :
    quieted host = origin.url.authority := by
  rcases exists_blanks named isScheme_scheme bare inside with ⟨blanks, host_eq, areBlanks⟩
  rcases split_append_eq_ok isScheme_scheme split_service with ⟨-, checked, behind, authority_eq, -⟩
  have quietedInside : ∀ char ∈ quieted host, endsAuthority char = false :=
    fun char member => inside char (mem_of_mem_quieted member)
  rw [quieted_append, quieted_of_quiet sound.quiet_written,
    splitAuthority_of_inside quietedInside sound.stops_written, host_eq] at authority_eq
  have lowered := eq_of_hostname? hostname_eq
  rw [origin.host_eq] at lowered
  have nothing := eq_nil_of_blanks (Prod.mk.inj authority_eq).1.symm areBlanks checked lowered.symm
    port_eq
  rw [host_eq, nothing, List.append_nil]

/-- Any other name leaves a part of itself in the path, in the host or in the port. -/
theorem spellsOut_of_split (named : Absolute.parse name = .ok origin) (noQuery : '?' ∉ name)
    (noFragment : '#' ∉ name) {url page parts : Url} (isScheme_url : isScheme url.scheme = true)
    (sound : page.Sound)
    (split_service : split (ServiceUrl.origin url (some name) ++
      (page.path ++ marked '?' page.query)) = .ok parts)
    (scheme_eq : parts.scheme = origin.url.scheme)
    (hostname_eq : parts.hostname? = some origin.host)
    (port_eq : parts.port? = .ok origin.port) (path_eq : parts.path = page.path) :
    SpellsOut name origin := by
  have name_ne_nil : name ≠ [] := by
    rintro rfl
    cases named
  have fromName (char : Char) (member : char ∈ withoutEndSlashes name) : char ∈ name :=
    (List.rdropWhile_prefix (· == '/') name).subset member
  rw [origin_of_ne_nil url name_ne_nil] at split_service
  by_cases hasScheme_name : hasScheme (withoutEndSlashes name) = true
  · rw [if_pos hasScheme_name] at split_service
    rcases exists_of_hasScheme hasScheme_name with ⟨scheme, host, isScheme_scheme, small, bare⟩
    have inName (char : Char) (member : char ∈ host) : char ∈ name := by
      apply fromName
      simp [bare, member]
    have noQueryInHost : '?' ∉ host := fun member => noQuery (inName '?' member)
    have noFragmentInHost : '#' ∉ host := fun member => noFragment (inName '#' member)
    rw [bare, List.append_assoc] at split_service
    have noSlash : '/' ∉ host := fun slash =>
      path_ne_of_slash isScheme_scheme slash noQueryInHost noFragmentInHost sound split_service
        path_eq
    have inside : ∀ char ∈ host, endsAuthority char = false := by
      intro char member
      rw [Bool.eq_false_iff]
      intro ends
      simp only [endsAuthority, Bool.or_eq_true, beq_iff_eq] at ends
      rcases ends with (rfl | rfl) | rfl
      · exact noSlash member
      · exact noQueryInHost member
      · exact noFragmentInHost member
    have host_eq :=
      quieted_host_eq named isScheme_scheme bare inside sound split_service hostname_eq
      port_eq
    have sameScheme : scheme = origin.url.scheme := by
      rw [← scheme_eq, (split_append_eq_ok isScheme_scheme split_service).1, small]
    refine ⟨hasScheme_name, ?_⟩
    rw [bare, quieted_append, quieted_append, host_eq,
      quieted_of_quiet (isInnerNoise_of_mem_scheme isScheme_scheme), sameScheme]
    rfl
  · rw [if_neg hasScheme_name, List.append_assoc] at split_service
    have slash := slash_mem_withoutEndSlashes named
    have different := path_ne_of_slash isScheme_url slash
      (fun member => noQuery (fromName '?' member)) (fun member => noFragment (fromName '#' member))
      sound split_service
    exact absurd path_eq different

/--
With a server name that stands for an absolute URL without a query and a fragment, the service URL
has the scheme, the host and the port of that URL, and the path of the request, exactly when the
name spells them out.
-/
theorem server_name_becomes_origin_iff (named : Absolute.parse name = .ok origin)
    (noQuery : '?' ∉ name) (noFragment : '#' ∉ name) (parsed : Absolute.parse text = .ok absolute)
    (artifact : Text) :
    ∃ serviceUrl, ofText text artifact (some name) = .ok serviceUrl ∧
      ((∃ parts, split serviceUrl = .ok parts ∧ parts.scheme = origin.url.scheme ∧
          parts.hostname? = some origin.host ∧ parts.port? = .ok origin.port ∧
          parts.path = absolute.url.path) ↔
        SpellsOut name origin) := by
  have sound_origin := origin.sound (Absolute.parse_eq_ok named).2
  have sound := (absolute.sound (Absolute.parse_eq_ok parsed).2).withoutField artifact
  have service_eq : ofText text artifact (some name) =
      .ok (ServiceUrl.origin absolute.url (some name) ++
        ((absolute.url.withoutField artifact).path ++
          marked '?' (absolute.url.withoutField artifact).query)) := by
    rw [ofText, parsed, ← List.append_assoc]
    rfl
  refine ⟨_, service_eq, ?_, ?_⟩
  · rintro ⟨parts, split_service, scheme_eq, hostname_eq, port_eq, path_eq⟩
    exact spellsOut_of_split named noQuery noFragment sound.scheme sound split_service scheme_eq
      hostname_eq port_eq path_eq
  · intro spelled
    have name_ne_nil : name ≠ [] := by
      rintro rfl
      cases named
    rw [origin_of_ne_nil _ name_ne_nil, if_pos spelled.1]
    exact ⟨_, split_of_spellsOut spelled sound_origin sound, rfl, origin.hostname?_eq,
      origin.port?_eq, rfl⟩

/-- The origin `https://public.example.org`. -/
def publicOrigin : Absolute where
  url := { scheme := "https".toList, authority := "public.example.org".toList }
  host := "public.example.org".toList
  port := none
  scheme_ne_nil := by decide
  hostname?_eq := by decide +kernel
  port?_eq := by decide +kernel

/-- The request URL `http://10.0.0.5:8000/home`. -/
def innerRequest : Absolute where
  url := { scheme := "http".toList, authority := "10.0.0.5:8000".toList, path := "/home".toList }
  host := "10.0.0.5".toList
  port := some 8000
  scheme_ne_nil := by decide
  hostname?_eq := by decide +kernel
  port?_eq := by decide +kernel

/-- A scheme in capitals does not count as one, so that the server name becomes part of a host. -/
theorem capital_server_name_becomes_no_origin :
    ∃ serviceUrl,
      ofText innerRequest.url.written "ticket".toList (some "HTTPS://public.example.org".toList) =
        .ok serviceUrl ∧
      ¬∃ parts, split serviceUrl = .ok parts ∧ parts.scheme = publicOrigin.url.scheme ∧
        parts.hostname? = some publicOrigin.host ∧ parts.port? = .ok publicOrigin.port ∧
        parts.path = innerRequest.url.path := by
  have named : Absolute.parse "HTTPS://public.example.org".toList = .ok publicOrigin :=
    Absolute.parse_of_split (by decide +kernel) (by decide +kernel)
  have parsed : Absolute.parse innerRequest.url.written = .ok innerRequest :=
    Absolute.parse_of_split (by decide +kernel) (by decide +kernel)
  rcases server_name_becomes_origin_iff named (by decide) (by decide) parsed "ticket".toList with
    ⟨serviceUrl, service_eq, becomes⟩
  refine ⟨serviceUrl, service_eq, ?_⟩
  rw [becomes, SpellsOut]
  decide +kernel

end ServiceUrl

end SignOnGate
