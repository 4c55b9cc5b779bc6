import SignOnGate.Proofs.ServiceUrl
import SignOnGate.Proofs.Url.Label
import SignOnGate.Proofs.Url.Quiet

/-!
# Login URLs whose host follows the service

When a client comes from another top-level domain, the last label of the service host is hung behind
the first part of the login host. The text that arises is not always a login URL: the label may be
empty, may bring a bracket or a colon that belongs into brackets, or may end in a blank that is
stripped off; and a sigma in it may come to stand at the end of a word. `Fits` rules these four out,
and nothing else can go wrong.
-/

namespace SignOnGate

open Text Url

/-- The text of a URL behind its authority. -/
def Url.behind (url : Url) : Text :=
  url.path ++ marked '?' url.query ++ marked '#' url.fragment

/-- A label that can be hung behind the first part of a login host. -/
structure LoginUrl.Fits (url : Absolute) (first label : Text) : Prop where
  label_ne_nil : label ≠ []
  stands : CanStand (first ++ '.' :: label)
  ends : url.url.behind = [] →
    ∀ char ∈ (authorityOf (first ++ '.' :: label) url.port).getLast?, isBlank char = false
  sigma : '%' ∉ first → inWordAfter false first = true →
    startsFinalSigma (before '%' label) = false

namespace Url

variable {url : Url} {authority : Text}

/-! ## Joining -/

theorem Sound.stops_behind (sound : url.Sound) :
    ∀ char ∈ url.behind.head?, endsAuthority char = true := by
  intro char isHead
  rw [behind] at isHead
  cases front : url.path ++ marked '?' url.query with
  | nil =>
      rw [front, List.nil_append, marked] at isHead
      split at isHead
      · cases isHead
      · cases isHead
        rfl
  | cons head rest =>
      rw [front] at isHead
      exact sound.stops_written char (by rw [front]; exact isHead)

theorem Quiet.behind (quiet : url.Quiet) : SignOnGate.Quiet url.behind :=
  (quiet.path.append (quiet.query.marked (by decide))).append (quiet.fragment.marked (by decide))

theorem Sound.join_with_authority (sound : url.Sound) (authority_ne_nil : authority ≠ []) :
    join { url with authority } = url.scheme ++ "://".toList ++ authority ++ url.behind := by
  rw [join_eq { url with authority } sound.scheme authority_ne_nil sound.path_start]
  simp [written, behind]

theorem Sound.shaped_with_authority (sound : url.Sound)
    (inner : ∀ char ∈ authority, isInnerChar char = true) : Shaped { url with authority } :=
  ⟨sound.scheme, sound.scheme_small, fun char member =>
    (isInnerChar_iff.mp (inner char member)).2.1,
    fun char member => (isInnerChar_iff.mp (inner char member)).2.2.1⟩

end Url

namespace LoginUrl

variable {text : Text} {login again : LoginUrl} {url : Absolute} {first label : Text}

/-! ## Parsing -/

theorem parts_ne_nil (parsed : parse text = .ok login) :
    login.firstPart ≠ [] ∧ login.lastPart ≠ [] := by
  simp only [parse] at parsed
  split at parsed
  · cases parsed
  · split at parsed
    · cases parsed
    · split at parsed
      · cases parsed
      · rename_i nonempty
        cases parsed
        exact not_or.mp nonempty

/--
A URL is a login URL if its host has a label behind its last dot, and something in front of it.
-/
theorem parse_of_host (parsed : Absolute.parse text = .ok url)
    (host_eq : url.host = first ++ '.' :: label) (noDot : '.' ∉ label) (first_ne_nil : first ≠ [])
    (label_ne_nil : label ≠ []) :
    parse text = .ok { firstPart := first, lastPart := label, fullUrl := strip text } := by
  have notBlank : isBlankText text = false := (Absolute.parse_eq_ok parsed).1
  have firstPart : beforeLast '.' url.host = first := by
    rw [host_eq, beforeLast_append_cons first noDot]
  have lastPart : afterLast '.' url.host = label := by
    rw [host_eq, afterLast_append_cons first noDot]
  simp [parse, notBlank, parsed, firstPart, lastPart, first_ne_nil, label_ne_nil]

/-! ## Hosts with another label -/

/-- The parts of a URL with its host exchanged. -/
def rehosted (url : Absolute) (host : Text) : Url :=
  { url.url with authority := authorityOf host url.port }

section Rehosted

variable {host : Text}

theorem replaceHost_eq (sound : url.url.Sound) (host_ne_nil : host ≠ []) :
    replaceHost url host = (rehosted url host).scheme ++ "://".toList ++
      (rehosted url host).authority ++ url.url.behind :=
  sound.join_with_authority (authorityOf_ne_nil_of_host host_ne_nil)

theorem shaped_rehosted (sound : url.url.Sound) (inner : ∀ char ∈ host, isInnerChar char = true) :
    (rehosted url host).Shaped :=
  sound.shaped_with_authority (isInnerChar_of_mem_authorityOf url.port inner)

end Rehosted

/-! ## Labels that fit -/

/-- Where the authority is the host alone, a blank at its end is one at the end of the label. -/
theorem isLast_label {port : Option Nat} {char : Char}
    (alone : authorityOf (first ++ '.' :: label) port = first ++ '.' :: label)
    (isLast : char ∈ (authorityOf (first ++ '.' :: label) port).getLast?)
    (blank : isBlank char = true) : char ∈ label.getLast? := by
  rw [alone, List.getLast?_append_of_ne_nil _ (by simp)] at isLast
  cases label with
  | nil =>
      cases isLast
      cases blank
  | cons head rest => exact isLast

section Fits

variable (sound : url.url.Sound) (quiet : url.url.Quiet) (front : IsHostFront first)
  (inner : ∀ char ∈ label, isInnerChar char = true)

include sound quiet front inner

/-- With a label that fits, the login URL is read again, with the same first part. -/
theorem Fits.exists_parse (noDot : '.' ∉ label) (fits : Fits url first label) :
    ∃ again, parse (replaceHost url (first ++ '.' :: label)) = .ok again ∧
      again.firstPart = first ∧ again.lastPart = hungLabel first label := by
  have innerHost := front.inner_hung inner
  have host_ne_nil : first ++ '.' :: label ≠ [] := by simp
  have authority_eq : (rehosted url (first ++ '.' :: label)).authority =
      authorityOf (first ++ '.' :: label) url.port := rfl
  rcases reads_of_authority authority_eq fits.stands innerHost host_ne_nil url.port_le with
    ⟨hostname, port⟩
  have soundHost : (rehosted url (first ++ '.' :: label)).Sound :=
    sound.rehosted innerHost host_ne_nil (reads_of_canStand url.port fits.stands innerHost).1
  rcases soundHost.exists_parse_append hostname port sound.stops_behind quiet.behind fits.ends with
    ⟨absolute, parsed, host_eq, -⟩
  rw [← replaceHost_eq sound host_ne_nil] at parsed
  rw [lowerHost_hung front] at host_eq
  exact ⟨_, parse_of_host parsed host_eq (not_mem_hungLabel noDot) front.nonempty
    (hungLabel_ne_nil first fits.label_ne_nil), rfl, rfl⟩

omit quiet in
/-- With nothing behind it, an authority that ends in a blank loses a piece of the label. -/
theorem exists_strip_replaceHost (nothingBehind : url.url.behind = []) {char : Char}
    (isLast : char ∈ (authorityOf (first ++ '.' :: label) url.port).getLast?)
    (blank : isBlank char = true) :
    ∃ kept tail, kept ++ tail = label ∧ tail ≠ [] ∧
      authorityOf (first ++ '.' :: kept) none = first ++ '.' :: kept ∧
      strip (replaceHost url (first ++ '.' :: label)) =
        url.url.scheme ++ "://".toList ++ (first ++ '.' :: kept) := by
  have shaped := shaped_rehosted sound (front.inner_hung inner)
  rcases authorityOf_eq_self_of_blank isLast blank with ⟨noColon, alone⟩
  rcases exists_stripEnd_append (isLast_label alone isLast blank) blank with
    ⟨tail, tail_ne_nil, whole⟩
  refine ⟨stripEnd label, tail, whole, tail_ne_nil, ?_, ?_⟩
  · have noColonKept : ':' ∉ first ++ '.' :: stripEnd label := by
      intro colon
      apply noColon
      rw [← whole, ← List.cons_append, ← List.append_assoc]
      exact List.mem_append_left tail colon
    rw [authorityOf_eq noColonKept]
    simp [marked]
  · have dot : isBlank '.' = false := rfl
    rw [replaceHost_eq sound (by simp), strip, shaped.stripFront_append, nothingBehind,
      List.append_nil, rehosted, alone, ← List.append_assoc, stripEnd_append_cons _ dot,
      List.append_assoc]

/-- The authority of a login URL that is read again is the new one, unless blanks were stripped. -/
theorem authority_of_parse {absolute : Absolute}
    (parsed : Absolute.parse (replaceHost url (first ++ '.' :: label)) = .ok absolute) :
    (∃ kept tail, kept ++ tail = label ∧ tail ≠ [] ∧
        absolute.url.authority = authorityOf (first ++ '.' :: kept) none ∧
        checkBrackets absolute.url.authority = .ok ()) ∨
      (url.url.behind = [] → ∀ char ∈ (authorityOf (first ++ '.' :: label) url.port).getLast?,
          isBlank char = false) ∧
        absolute.url.authority = authorityOf (first ++ '.' :: label) url.port ∧
        checkBrackets absolute.url.authority = .ok () := by
  have innerHost := front.inner_hung inner
  have host_ne_nil : first ++ '.' :: label ≠ [] := by simp
  by_cases ends : url.url.behind = [] →
      ∀ char ∈ (authorityOf (first ++ '.' :: label) url.port).getLast?, isBlank char = false
  · rw [replaceHost_eq sound host_ne_nil] at parsed
    rcases (shaped_rehosted sound innerHost).authority_of_parse
      (authorityOf_ne_nil_of_host host_ne_nil) sound.stops_behind quiet.behind ends parsed with
      ⟨authority_eq, checked⟩
    refine Or.inr ⟨ends, authority_eq, ?_⟩
    rw [authority_eq]
    exact checked
  · push Not at ends
    rcases ends with ⟨nothingBehind, char, isLast, notSolid⟩
    rcases exists_strip_replaceHost sound front inner nothingBehind isLast
      (by simpa using notSolid) with ⟨kept, tail, whole, tail_ne_nil, keptAlone, strip_eq⟩
    have innerKept : ∀ char ∈ kept, isInnerChar char = true := by
      intro char member
      apply inner
      rw [← whole]
      exact List.mem_append_left tail member
    have shapedKept := sound.shaped_with_authority (front.inner_hung innerKept)
    have split_strip := (Absolute.parse_eq_ok parsed).2
    rw [strip_eq, ← List.append_nil (url.url.scheme ++ _ ++ _)] at split_strip
    rcases shapedKept.authority_of_split (by simp) (by simp) split_strip with
      ⟨authority_eq, checked⟩
    refine Or.inl ⟨kept, tail, whole, tail_ne_nil, ?_, ?_⟩
    · rw [authority_eq, keptAlone]
    · rw [authority_eq]
      exact checked

/-- A label fits when the login URL is read again with that label up to case. -/
theorem fits_of_parse (noDot : '.' ∉ label)
    (parsed : parse (replaceHost url (first ++ '.' :: label)) = .ok again)
    (same : sameIgnoringCase again.lastPart label = true) : Fits url first label := by
  rw [sameIgnoringCase, beq_iff_eq] at same
  rcases parse_eq_ok parsed with ⟨absolute, absolute_eq, -, lastPart_eq, -⟩
  have read (kept : Text) (noDotKept : '.' ∉ kept)
      (host_eq : absolute.host = first ++ '.' :: hungLabel first kept) :
      again.lastPart = hungLabel first kept := by
    rw [lastPart_eq, host_eq, afterLast_append_cons first (not_mem_hungLabel noDotKept)]
  rcases authority_of_parse sound quiet front inner absolute_eq with
    ⟨kept, tail, whole, tail_ne_nil, authority_eq, checked⟩ | ⟨ends, authority_eq, checked⟩
  · -- The stripped blanks are missing, and lowering would not make up for them.
    have fromLabel : ∀ char ∈ kept, char ∈ label := by
      intro char member
      rw [← whole]
      exact List.mem_append_left tail member
    have innerKept : ∀ char ∈ kept, isInnerChar char = true := fun char member =>
      inner char (fromLabel char member)
    have host_eq := (host_of_authority front innerKept authority_eq checked).2
    rw [read kept (fun dot => noDot (fromLabel '.' dot)) host_eq] at same
    have length := congrArg List.length same
    rw [length_lower_hungLabel, ← whole, length_lower_append] at length
    have nothing : lower tail = [] := List.length_eq_zero_iff.mp (by omega)
    exact absurd nothing (lowerFrom_ne_nil false tail_ne_nil)
  · rcases host_of_authority front inner authority_eq checked with ⟨stands, host_eq⟩
    have lastPart := read label noDot host_eq
    refine ⟨?_, stands, ends, ?_⟩
    · rintro rfl
      exact lowerFrom_ne_nil false (parts_ne_nil parsed).2 same
    · apply (sameIgnoringCase_hungLabel_iff first label).mp
      rw [← lastPart, sameIgnoringCase, beq_iff_eq]
      exact same

end Fits

theorem parse_strip (parsed : parse text = .ok login) : parse (strip text) = .ok login := by
  rcases parse_eq_ok parsed with ⟨absolute, absolute_eq, -⟩
  have notBlank : isBlankText text = false := (Absolute.parse_eq_ok absolute_eq).1
  rw [parse, absolute_eq] at parsed
  rw [parse, isBlankText_strip, Absolute.parse_strip absolute_eq, strip_strip]
  exact parsed

theorem isHostFront_firstPart (parsed : parse text = .ok login)
    (url_eq : Absolute.parse text = .ok url) : IsHostFront login.firstPart := by
  have nonempty := (parts_ne_nil parsed).1
  rcases parse_eq_ok parsed with ⟨urlToo, url_eqToo, firstPart_eq, -⟩
  rw [url_eq] at url_eqToo
  cases url_eqToo
  rw [firstPart_eq] at nonempty ⊢
  exact url.isHostFront_beforeLast (url.sound (Absolute.parse_eq_ok url_eq).2) nonempty

end LoginUrl

namespace LoginRedirect

variable {text serviceUrl : Text} {login : LoginUrl} {url service : Absolute}

theorem sameIgnoringCase_comm (first second : Text) :
    sameIgnoringCase first second = sameIgnoringCase second first :=
  Bool.beq_comm

/-- The login URL for a service is the configured one, or that one with another label. -/
theorem loginFor_eq (parsed : LoginUrl.parse text = .ok login)
    (url_eq : Absolute.parse text = .ok url)
    (serviceHost : Text) :
    loginFor login serviceHost =
      .ok (if sameIgnoringCase (rightmostLabel serviceHost) login.lastPart then strip text
        else replaceHost url (login.firstPart ++ '.' :: rightmostLabel serviceHost)) := by
  rcases LoginUrl.parse_eq_ok parsed with ⟨-, -, -, -, fullUrl_eq⟩
  simp only [loginFor]
  split
  · rw [fullUrl_eq]
  · rw [fullUrl_eq, Absolute.parse_strip url_eq]
    rfl

/-- With a login URL that was read, a redirect can be built for every absolute service URL. -/
theorem exists_build_of_parse (parsed : LoginUrl.parse text = .ok login)
    (service_eq : Absolute.parse serviceUrl = .ok service) (parameter : Text)
    (flags : RedirectFlags) :
    ∃ redirect, build login parameter serviceUrl flags = .ok redirect ∧
      loginFor login service.host = .ok redirect.loginUrl := by
  cases built : build login parameter serviceUrl flags with
  | error error =>
      rcases (build_eq_error_iff parsed parameter serviceUrl flags error).mp built with
        ⟨rejection, rejected, -⟩
      rw [service_eq] at rejected
      cases rejected
  | ok redirect =>
      rcases build_eq_ok built with ⟨serviceToo, service_eqToo, login_eq, -⟩
      rw [service_eq] at service_eqToo
      cases service_eqToo
      exact ⟨redirect, rfl, login_eq⟩

theorem isInnerChar_of_mem_label (service_eq : Absolute.parse serviceUrl = .ok service) :
    ∀ char ∈ rightmostLabel service.host, isInnerChar char = true := by
  intro char member
  have sound := service.sound (Absolute.parse_eq_ok service_eq).2
  exact service.isInnerChar_of_mem_host sound char (mem_of_mem_afterLast member)

/--
The login URL of a redirect is read again, with the first part of the configured one and with the
label of the service up to case, exactly when that label is the configured one or fits.
-/
theorem login_is_read_again_iff (parsed : LoginUrl.parse text = .ok login)
    (url_eq : Absolute.parse text = .ok url) (service_eq : Absolute.parse serviceUrl = .ok service)
    (parameter : Text) (flags : RedirectFlags) :
    ∃ redirect, build login parameter serviceUrl flags = .ok redirect ∧
      ((∃ again, LoginUrl.parse redirect.loginUrl = .ok again ∧
          again.firstPart = login.firstPart ∧
          sameIgnoringCase again.lastPart (rightmostLabel service.host) = true) ↔
        sameIgnoringCase (rightmostLabel service.host) login.lastPart = true ∨
          LoginUrl.Fits url login.firstPart (rightmostLabel service.host)) := by
  have noDot : '.' ∉ rightmostLabel service.host := not_mem_afterLast '.' service.host
  have inner := isInnerChar_of_mem_label service_eq
  have sound := url.sound (Absolute.parse_eq_ok url_eq).2
  have quiet := Absolute.quiet_of_parse url_eq
  have front := LoginUrl.isHostFront_firstPart parsed url_eq
  rcases exists_build_of_parse parsed service_eq parameter flags with ⟨redirect, built, login_eq⟩
  rw [loginFor_eq parsed url_eq] at login_eq
  refine ⟨redirect, built, ?_⟩
  rw [← Except.ok.inj login_eq]
  by_cases same : sameIgnoringCase (rightmostLabel service.host) login.lastPart = true
  · rw [if_pos same]
    refine ⟨fun _ => Or.inl same, fun _ => ?_⟩
    refine ⟨login, LoginUrl.parse_strip parsed, rfl, ?_⟩
    rw [sameIgnoringCase_comm]
    exact same
  · rw [if_neg same]
    refine ⟨?_, ?_⟩
    · rintro ⟨again, parsedAgain, -, sameAgain⟩
      exact Or.inr (LoginUrl.fits_of_parse sound quiet front inner noDot parsedAgain sameAgain)
    · rintro (sameLabel | fits)
      · exact absurd sameLabel same
      · rcases fits.exists_parse sound quiet front inner noDot with
          ⟨again, parsedAgain, firstPart, lastPart⟩
        refine ⟨again, parsedAgain, firstPart, ?_⟩
        rw [lastPart]
        exact (sameIgnoringCase_hungLabel_iff _ _).mpr fits.sigma

/-- The login URL `https://sso.example.org/cas/login`. -/
def exampleLogin : Absolute where
  url := {
    scheme := "https".toList
    authority := "sso.example.org".toList
    path := "/cas/login".toList }
  host := "sso.example.org".toList
  port := none
  scheme_ne_nil := by decide
  hostname?_eq := by decide +kernel
  port?_eq := by decide +kernel

/-- The service URL `https://app.example.net./home`, whose host ends in a dot. -/
def dottedService : Absolute where
  url := {
    scheme := "https".toList
    authority := "app.example.net.".toList
    path := "/home".toList }
  host := "app.example.net.".toList
  port := none
  scheme_ne_nil := by decide
  hostname?_eq := by decide +kernel
  port?_eq := by decide +kernel

/-- Behind the final dot of the service host there is no label to follow. -/
theorem login_is_not_read_again_behind_final_dot :
    ∃ login redirect, LoginUrl.parse exampleLogin.url.written = .ok login ∧
      build login "service".toList dottedService.url.written {} = .ok redirect ∧
      redirect.loginUrl = "https://sso.example./cas/login".toList ∧
      ¬∃ again, LoginUrl.parse redirect.loginUrl = .ok again ∧
        again.firstPart = login.firstPart ∧
        sameIgnoringCase again.lastPart (rightmostLabel dottedService.host) = true := by
  have login_eq : Absolute.parse exampleLogin.url.written = .ok exampleLogin :=
    Absolute.parse_of_split (by decide) (by decide +kernel)
  have service_eq : Absolute.parse dottedService.url.written = .ok dottedService :=
    Absolute.parse_of_split (by decide) (by decide +kernel)
  have host_eq : exampleLogin.host = "sso.example".toList ++ '.' :: "org".toList := by decide
  have parsed := LoginUrl.parse_of_host login_eq host_eq (by decide) (by decide) (by decide)
  rcases login_is_read_again_iff parsed login_eq service_eq "service".toList {} with
    ⟨redirect, built, read_iff⟩
  have target : (build ⟨"sso.example".toList, "org".toList, strip exampleLogin.url.written⟩
      "service".toList dottedService.url.written {}).toOption.map loginUrl =
        some "https://sso.example./cas/login".toList := by
    decide +kernel
  refine ⟨_, redirect, parsed, built, ?_, ?_⟩
  · rw [built] at target
    exact Option.some.inj target
  · rw [read_iff]
    rintro (same | fits)
    · exact absurd same (by decide +kernel)
    · exact fits.label_ne_nil (by decide)

end LoginRedirect

end SignOnGate
