import SignOnGate.Proofs.Query
import SignOnGate.Proofs.Url.Marks
import SignOnGate.Proofs.Url.Quiet
import SignOnGate.Protocol
import SignOnGate.Redirect

/-!
# Redirects that are read back

The target of a redirect is the login URL with more in its query, and nothing else about it changes:
what is added stands behind the first question mark and in front of the first hash, where scheme,
authority and path are settled already. The query is read as the parameters of the login URL, then
the service URL as it was before it was encoded, then the flags that are set.
-/

namespace SignOnGate

open Text Url

variable {loginUrl : Text} {url : Url}

namespace LoginRedirect

/-- The parameters that a redirect adds to those of the login URL. -/
def parameters (parameter serviceUrl : Text) (flags : RedirectFlags) : List (Text × Text) :=
  (parameter, serviceUrl) ::
    ((if flags.renew then [("renew".toList, "true".toList)] else []) ++
      if flags.gateway then [("gateway".toList, "true".toList)] else [])

/-- The parameters that a redirect adds, as they are written. -/
def addition (parameter serviceUrl : Text) (flags : RedirectFlags) : Text :=
  parameter ++ '=' :: Percent.encode serviceUrl ++ flag "renew".toList flags.renew ++
    flag "gateway".toList flags.gateway

/-! ## What is added -/

/-- A flag at the end of a query is one more entry, or nothing. -/
theorem parse_flag {name : Text} (plain : ∀ char ∈ name, Percent.isUnreserved char = true)
    (query : Text) (present : Bool) :
    Query.parse (query ++ flag name present) =
      Query.parse query ++ if present then [(name, "true".toList)] else [] := by
  cases present with
  | false => simp [flag]
  | true =>
      have true_eq : "=true".toList = '=' :: Percent.encode "true".toList := by decide
      rw [flag, if_pos rfl, if_pos rfl, true_eq, List.cons_append, Query.parse_append,
        Query.parse_field plain]

theorem isUnreserved_of_mem_serviceParameter (protocol : Protocol) :
    ∀ char ∈ protocol.serviceParameter, Percent.isUnreserved char = true := by
  apply List.all_eq_true.mp
  cases protocol <;> decide

/-- What is added to a login URL is read as the service URL and the flags. -/
theorem parse_addition (protocol : Protocol) (serviceUrl : Text) (flags : RedirectFlags) :
    Query.parse (addition protocol.serviceParameter serviceUrl flags) =
      parameters protocol.serviceParameter serviceUrl flags := by
  have renew : ∀ char ∈ "renew".toList, Percent.isUnreserved char = true :=
    List.all_eq_true.mp (by decide)
  have gateway : ∀ char ∈ "gateway".toList, Percent.isUnreserved char = true :=
    List.all_eq_true.mp (by decide)
  rw [addition, parse_flag gateway, parse_flag renew,
    Query.parse_field (isUnreserved_of_mem_serviceParameter protocol), List.append_assoc]
  rfl

/-- A character of a query whose names are plain and whose values are encoded. -/
def isFieldChar (char : Char) : Bool :=
  Percent.isUnreserved char || char == '%' || char == '=' || char == '&'

theorem isFieldChar_of_mem_flag {name : Text}
    (plain : ∀ char ∈ name, Percent.isUnreserved char = true)
    {present : Bool} : ∀ char ∈ flag name present, isFieldChar char = true := by
  intro char member
  cases present with
  | false => cases member
  | true =>
      rcases List.mem_append.mp member with front | value
      · rcases List.mem_cons.mp front with rfl | inName
        · decide
        · simp [isFieldChar, plain char inName]
      · have values : "=true".toList.all isFieldChar = true := by decide
        exact List.all_eq_true.mp values char value

/-- What is added to a login URL has the characters of fields only. -/
theorem isFieldChar_of_mem_addition {parameter : Text}
    (plain : ∀ char ∈ parameter, Percent.isUnreserved char = true) {serviceUrl : Text}
    {flags : RedirectFlags} :
    ∀ char ∈ addition parameter serviceUrl flags, isFieldChar char = true := by
  intro char member
  rcases List.mem_append.mp member with front | gateway
  · rcases List.mem_append.mp front with field | renew
    · rcases List.mem_append.mp field with inName | value
      · simp [isFieldChar, plain char inName]
      · rcases List.mem_cons.mp value with rfl | encoded
        · decide
        · rcases Percent.mem_encode encoded with rfl | unreserved
          · decide
          · simp [isFieldChar, unreserved]
    · exact isFieldChar_of_mem_flag (List.all_eq_true.mp (by decide)) char renew
  · exact isFieldChar_of_mem_flag (List.all_eq_true.mp (by decide)) char gateway

theorem isInnerNoise_of_isFieldChar {char : Char} (fieldChar : isFieldChar char = true) :
    isInnerNoise char = false := by
  refine isInnerNoise_of_class (fun char => isFieldChar char = true) ?_ ?_ ?_ fieldChar <;> decide

/-! ## Where it is added -/

theorem withService_eq (loginUrl parameter serviceUrl : Text) (flags : RedirectFlags) :
    withService loginUrl parameter serviceUrl flags = before '#' loginUrl ++
      (if '?' ∈ before '#' loginUrl then '&' else '?') ::
        (addition parameter serviceUrl flags ++ loginUrl.dropWhile (· != '#')) := by
  simp [withService, addition]

theorem head_dropWhile_fragment (loginUrl : Text) :
    ∀ char ∈ (loginUrl.dropWhile (· != '#')).head?, char = '#' := by
  intro char isHead
  rcases dropWhile_eq_nil_or_cons '#' loginUrl with none | ⟨rest, shape⟩
  · rw [none] at isHead
    cases isHead
  · rw [shape] at isHead
    cases isHead
    rfl

/-- What is added goes into the query, behind the parameters that are there. -/
theorem split_withService {parameter : Text}
    (plain : ∀ char ∈ parameter, Percent.isUnreserved char = true)
    (split_login : split loginUrl = .ok url) (serviceUrl : Text) (flags : RedirectFlags) :
    ∃ query, split (withService loginUrl parameter serviceUrl flags) = .ok { url with query } ∧
      Query.parse query =
        Query.parse url.query ++ Query.parse (addition parameter serviceUrl flags) := by
  have fieldChars : ∀ char ∈ addition parameter serviceUrl flags, isFieldChar char = true :=
    isFieldChar_of_mem_addition plain
  have addedNoFragment : '#' ∉ addition parameter serviceUrl flags := by
    intro member
    cases fieldChars '#' member
  have quiet : ∀ char ∈ addition parameter serviceUrl flags, isInnerNoise char = false := by
    intro char member
    exact isInnerNoise_of_isFieldChar (fieldChars char member)
  have isTail := head_dropWhile_fragment loginUrl
  have noFragment := not_mem_before '#' loginUrl
  rw [← before_append_dropWhile '#' loginUrl] at split_login
  rw [withService_eq]
  by_cases hasQuery : '?' ∈ before '#' loginUrl
  · rw [if_pos hasQuery]
    have parts := before_append_after hasQuery
    have frontNoFragment : '#' ∉ before '?' (before '#' loginUrl) := fun member =>
      noFragment (mem_of_mem_before member)
    have queryNoFragment : '#' ∉ after '?' (before '#' loginUrl) := fun member =>
      noFragment (mem_of_mem_after member)
    rw [← parts, List.append_assoc, List.cons_append] at split_login
    refine ⟨_, ?_, Query.parse_append _ _⟩
    rw [← parts, List.append_assoc, List.cons_append]
    exact split_more_query (not_mem_before '?' _) frontNoFragment queryNoFragment isTail
      addedNoFragment quiet split_login
  · rw [if_neg hasQuery]
    rcases split_first_query hasQuery noFragment isTail addedNoFragment quiet split_login with
      ⟨split_target, noParameters⟩
    exact ⟨_, split_target, by rw [noParameters, Query.parse_nil, List.nil_append]⟩

/--
The target of a redirect is split into the parts of the login URL, but for the query; and that is
read as the parameters of the login URL followed by the service URL and by the flags that are set.
-/
theorem target_read_back (split_login : split loginUrl = .ok url) (protocol : Protocol)
    (serviceUrl : Text) (flags : RedirectFlags) :
    ∃ target, split (withService loginUrl protocol.serviceParameter serviceUrl flags) = .ok target ∧
      target.scheme = url.scheme ∧ target.authority = url.authority ∧ target.path = url.path ∧
      target.fragment = url.fragment ∧
      Query.parse target.query =
        Query.parse url.query ++ parameters protocol.serviceParameter serviceUrl flags := by
  have plain := isUnreserved_of_mem_serviceParameter protocol
  rcases split_withService plain split_login serviceUrl flags with ⟨query, split_target, parsed⟩
  refine ⟨_, split_target, rfl, rfl, rfl, rfl, ?_⟩
  rw [parsed, parse_addition]

/-- A login URL with a tab, with a query that ends in a mark, and with marks in its fragment. -/
def busyLogin : Text := "https://sso.example.org/c\tas/login?locale=d%65&#top?a:b".toList

/-- The parts of the busy login URL. -/
def busyParts : Url where
  scheme := "https".toList
  authority := "sso.example.org".toList
  path := "/cas/login".toList
  query := "locale=d%65&".toList
  fragment := "top?a:b".toList

/--
The busy login URL keeps its parts, and a service URL with an umlaut, a blank and an escape is read
back.
-/
theorem target_read_back_for_busy_login :
    split busyLogin = .ok busyParts ∧
      ∃ target, split (withService busyLogin Protocol.saml11.serviceParameter
          "http://bücher.example.org/a b?q=1+2&x=%25#z".toList { gateway := true }) = .ok target ∧
        target.scheme = busyParts.scheme ∧ target.authority = busyParts.authority ∧
        target.path = busyParts.path ∧ target.fragment = busyParts.fragment ∧
        Query.parse target.query = [
          ("locale".toList, "de".toList),
          ("TARGET".toList, "http://bücher.example.org/a b?q=1+2&x=%25#z".toList),
          ("gateway".toList, "true".toList)] := by
  have split_login : split busyLogin = .ok busyParts := by decide +kernel
  rcases target_read_back split_login .saml11 "http://bücher.example.org/a b?q=1+2&x=%25#z".toList
    { gateway := true } with ⟨target, split_target, scheme, authority, path, fragment, parsed⟩
  refine ⟨split_login, target, split_target, scheme, authority, path, fragment, ?_⟩
  rw [parsed]
  decide +kernel

end LoginRedirect

end SignOnGate
