import SignOnGate.Proofs.Login

/-!
# Only the host of a login URL moves

A label of the service host is spliced into the login URL, which is then put together from its parts
again. When the two authorities are bare, neither the first part of the login host nor the label has
a character that could end the host, so the new text is split at the same places as before: all
parts but the authority are found again, and the new host is found between them.

The new host is compared without regard to case. Splitting lowers it, and a label that was kept as
it was behind a percent sign can be lowered there.
-/

namespace SignOnGate

open Text Url

namespace Url

/-- An ASCII authority without brackets. -/
structure Bare (authority : Text) : Prop where
  ascii : ∀ char ∈ authority, isAscii char = true
  noOpening : '[' ∉ authority
  noClosing : ']' ∉ authority

variable {url : Url} {authority : Text} {absolute : Absolute}

/-! ## Joining what was split -/

theorem Sound.hierarchy_noFragment (sound : url.Sound) :
    '#' ∉ url.path ++ marked '?' url.query := by
  intro member
  rcases List.mem_append.mp member with inPath | inQuery
  · exact sound.path_noFragment inPath
  · rcases mem_marked inQuery with same | inside
    · cases same
    · exact sound.query_noFragment inside

/-- Parts that come from a split are split again from their joined text. -/
theorem Sound.split_join (sound : url.Sound) (quiet : url.Quiet) : split (join url) = .ok url := by
  have joined : join url = url.scheme ++ "://".toList ++ url.authority ++ url.behind :=
    sound.join_with_authority sound.authority_ne_nil
  have noFragment := sound.hierarchy_noFragment
  rw [joined, sound.split_append sound.stops_behind quiet.behind]
  simp only [behind, before_append_marked _ noFragment, after_append_marked _ noFragment,
    before_append_marked _ sound.path_noQuery, after_append_marked _ sound.path_noQuery]

/-! ## Hosts of bare authorities -/

/-- The host of a bare authority is ASCII. -/
theorem Bare.isAscii_of_mem_host (bare : Bare absolute.url.authority) :
    ∀ char ∈ absolute.host, isAscii char = true := by
  have asciiRaw : ∀ char ∈ rawHost absolute.url.authority, isAscii char = true := by
    intro char member
    apply bare.ascii
    exact mem_of_mem_afterLast (mem_of_mem_rawHost member)
  have asciiFront : ∀ char ∈ before '%' (rawHost absolute.url.authority), isAscii char = true :=
    fun char member => asciiRaw char (mem_of_mem_before member)
  intro char member
  rw [absolute.host_eq] at member
  rcases List.mem_append.mp member with front | zone
  · exact forall_mem_lower (fun _ => isAscii_of_isLower) asciiFront asciiFront char front
  · exact asciiRaw char (List.dropWhile_subset _ zone)

/-- The host of a bare authority has no mark that only brackets could hide. -/
theorem Bare.not_mem_host (bare : Bare absolute.url.authority) :
    ':' ∉ absolute.host ∧ '[' ∉ absolute.host ∧ ']' ∉ absolute.host := by
  have noOpening : '[' ∉ hostPart absolute.url.authority := fun member =>
    bare.noOpening (mem_of_mem_afterLast member)
  have free {mark : Char} (still : isStill mark = true)
      (noMark : mark ∉ rawHost absolute.url.authority) : mark ∉ absolute.host := by
    intro member
    rw [absolute.host_eq] at member
    exact noMark (mem_of_mem_lowerHost (isUnreached_of_isStill still) member)
  refine ⟨free (by decide) ?_, free (by decide) ?_, free (by decide) ?_⟩
  · simp only [rawHost, if_neg noOpening]
    exact not_mem_before ':' _
  · intro member
    exact noOpening (mem_of_mem_rawHost member)
  · intro member
    exact bare.noClosing (mem_of_mem_afterLast (mem_of_mem_rawHost member))

/-- What is made of two hosts of bare authorities and a dot can stand in an authority. -/
theorem Bare.canStand_hung {first label : Text} {service : Absolute}
    (bare : Bare absolute.url.authority) (bareService : Bare service.url.authority)
    (fromHost : ∀ char ∈ first, char ∈ absolute.host)
    (fromService : ∀ char ∈ label, char ∈ service.host) : CanStand (first ++ '.' :: label) := by
  have free {mark : Char} (notDot : mark ≠ '.') (noMark : mark ∉ absolute.host)
      (noMarkToo : mark ∉ service.host) : mark ∉ first ++ '.' :: label := by
    intro member
    rcases List.mem_append.mp member with inFirst | behind
    · exact noMark (fromHost mark inFirst)
    · rcases List.mem_cons.mp behind with isDot | inLabel
      · exact notDot isDot
      · exact noMarkToo (fromService mark inLabel)
  rcases bare.not_mem_host with ⟨noColon, noOpening, noClosing⟩
  rcases bareService.not_mem_host with ⟨noColonToo, noOpeningToo, noClosingToo⟩
  rw [CanStand, if_neg (free (by decide) noColon noColonToo)]
  exact ⟨free (by decide) noOpening noOpeningToo, free (by decide) noClosing noClosingToo⟩

end Url

/-- The parts of a URL that was given another host: it has that host, but for case, and the other
parts are the same. -/
structure Url.Moved (url : Absolute) (host : Text) (parts : Url) : Prop where
  scheme : parts.scheme = url.url.scheme
  port : parts.port? = .ok url.port
  path : parts.path = url.url.path
  query : parts.query = url.url.query
  fragment : parts.fragment = url.url.fragment
  hostname : ∃ read, parts.hostname? = some read ∧ sameIgnoringCase read host = true

namespace LoginUrl

variable {text : Text} {login : LoginUrl} {url : Absolute} {host : Text}

/-- The host of a login URL is put together from its two parts. -/
theorem host_eq_parts (parsed : parse text = .ok login) (url_eq : Absolute.parse text = .ok url) :
    url.host = login.firstPart ++ '.' :: login.lastPart := by
  have nonempty := (parts_ne_nil parsed).1
  rcases parse_eq_ok parsed with ⟨urlToo, url_eqToo, firstPart_eq, lastPart_eq, -⟩
  rw [url_eq] at url_eqToo
  cases url_eqToo
  have dot : '.' ∈ url.host := by
    by_contra noDot
    apply nonempty
    rw [firstPart_eq, beforeLast_of_not_mem noDot]
  rw [firstPart_eq, lastPart_eq, beforeLast_append_afterLast dot]

/-- With another host that can stand, all parts of a login URL but the authority are found again. -/
theorem exists_split_replaceHost (sound : url.url.Sound) (quiet : url.url.Quiet)
    (stands : CanStand host) (inner : ∀ char ∈ host, isInnerChar char = true)
    (host_ne_nil : host ≠ []) :
    ∃ parts, split (replaceHost url host) = .ok parts ∧ Moved url host parts := by
  have quietHost : Quiet host := fun char member => (isInnerChar_iff.mp (inner char member)).2.2.1
  have quietRehosted : (rehosted url host).Quiet :=
    ⟨quiet.scheme, quietHost.authorityOf url.port, quiet.path, quiet.query, quiet.fragment⟩
  have soundRehosted : (rehosted url host).Sound :=
    sound.rehosted inner host_ne_nil (reads_of_canStand url.port stands inner).1
  have authority_eq : (rehosted url host).authority = authorityOf host url.port := rfl
  rcases reads_of_authority authority_eq stands inner host_ne_nil url.port_le with ⟨hostname, port⟩
  refine ⟨_, soundRehosted.split_join quietRehosted, rfl, port, rfl, rfl, rfl, _, hostname, ?_⟩
  simp only [sameIgnoringCase, lower_lowerHost, beq_self_eq_true]

end LoginUrl

namespace LoginRedirect

variable {text serviceUrl : Text} {login : LoginUrl} {url service : Absolute}

/-- ASCII texts that agree without regard to case still do so behind a common front. -/
theorem sameIgnoringCase_append_of_ascii {front first second : Text}
    (ascii : ∀ char ∈ front ++ first, isAscii char = true)
    (asciiSecond : ∀ char ∈ second, isAscii char = true)
    (same : sameIgnoringCase first second = true) :
    sameIgnoringCase (front ++ first) (front ++ second) = true := by
  rcases List.forall_mem_append.mp ascii with ⟨asciiFront, asciiFirst⟩
  have asciiToo := List.forall_mem_append.mpr ⟨asciiFront, asciiSecond⟩
  simp only [sameIgnoringCase, beq_iff_eq, lower_of_ascii asciiFirst, lower_of_ascii asciiSecond,
    lower_of_ascii ascii, lower_of_ascii asciiToo, lowerAscii, List.map_append] at same ⊢
  rw [same]

/-- With the label of a service that has the configured one, a login host stays the same. -/
theorem sameIgnoringCase_host (host_eq : url.host = login.firstPart ++ '.' :: login.lastPart)
    (bare : Bare url.url.authority) (bareService : Bare service.url.authority)
    (same : sameIgnoringCase (rightmostLabel service.host) login.lastPart = true) :
    sameIgnoringCase url.host (login.firstPart ++ '.' :: rightmostLabel service.host) = true := by
  have shape (label : Text) :
      login.firstPart ++ '.' :: label = (login.firstPart ++ ['.']) ++ label := by
    simp
  have ascii := bare.isAscii_of_mem_host
  rw [host_eq, shape login.lastPart] at ascii
  rw [host_eq, shape login.lastPart, shape (rightmostLabel service.host)]
  rw [sameIgnoringCase_comm] at same
  apply sameIgnoringCase_append_of_ascii ascii _ same
  intro char member
  apply bareService.isAscii_of_mem_host
  exact mem_of_mem_afterLast member

/--
The login URL of a redirect has the host of the configured one with the label of the service in the
last place, and all its other parts; with the same label it is the configured one as it was written.
-/
theorem rewriting_moves_only_the_host (parsed : LoginUrl.parse text = .ok login)
    (url_eq : Absolute.parse text = .ok url) (service_eq : Absolute.parse serviceUrl = .ok service)
    (bare : Bare url.url.authority) (bareService : Bare service.url.authority) (parameter : Text)
    (flags : RedirectFlags) :
    ∃ redirect, build login parameter serviceUrl flags = .ok redirect ∧
      (∃ parts, split redirect.loginUrl = .ok parts ∧
        Moved url (login.firstPart ++ '.' :: rightmostLabel service.host) parts) ∧
      (sameIgnoringCase (rightmostLabel service.host) login.lastPart = true →
        redirect.loginUrl = strip text) := by
  have host_eq := LoginUrl.host_eq_parts parsed url_eq
  have split_strip := (Absolute.parse_eq_ok url_eq).2
  rcases exists_build_of_parse parsed service_eq parameter flags with ⟨redirect, built, login_eq⟩
  rw [loginFor_eq parsed url_eq] at login_eq
  refine ⟨redirect, built, ?_⟩
  rw [← Except.ok.inj login_eq]
  by_cases same : sameIgnoringCase (rightmostLabel service.host) login.lastPart = true
  · rw [if_pos same]
    have sameHost := sameIgnoringCase_host host_eq bare bareService same
    refine ⟨⟨url.url, split_strip, ?_⟩, fun _ => rfl⟩
    exact ⟨rfl, url.port?_eq, rfl, rfl, rfl, url.host, url.hostname?_eq, sameHost⟩
  · rw [if_neg same]
    refine ⟨?_, fun sameToo => absurd sameToo same⟩
    have stands : CanStand (login.firstPart ++ '.' :: rightmostLabel service.host) := by
      apply bare.canStand_hung bareService
      · intro char member
        simp [host_eq, member]
      · intro char member
        exact mem_of_mem_afterLast member
    have sound := url.sound split_strip
    have quiet := Absolute.quiet_of_parse url_eq
    have front := LoginUrl.isHostFront_firstPart parsed url_eq
    apply LoginUrl.exists_split_replaceHost sound quiet stands
    · exact front.inner_hung (isInnerChar_of_mem_label service_eq)
    · simp

/-- A login URL in blanks, with user information, a percent sign, and a port with a leading zero. -/
def paddedLogin : Text := " HTTPS://user@S\\SO%2D.Example.org:0443/cas//login?locale=de#top ".toList

/-- The parts of the padded login URL. -/
def paddedParts : Absolute where
  url := {
    scheme := "https".toList
    authority := "user@S\\SO%2D.Example.org:0443".toList
    path := "/cas//login".toList
    query := "locale=de".toList
    fragment := "top".toList }
  host := "s\\so%2D.Example.org".toList
  port := some 443
  scheme_ne_nil := by decide
  hostname?_eq := by decide +kernel
  port?_eq := by decide +kernel

/-- The service URL `http://me@App.example.N%4ET :80/home`, whose last label ends in a space. -/
def spacedService : Absolute where
  url := {
    scheme := "http".toList
    authority := "me@App.example.N%4ET :80".toList
    path := "/home".toList }
  host := "app.example.n%4ET ".toList
  port := some 80
  scheme_ne_nil := by decide
  hostname?_eq := by decide +kernel
  port?_eq := by decide +kernel

/--
The padded login URL moves to the label of the spaced service URL, and the label keeps its letters.
-/
theorem rewriting_moves_only_the_host_of_padded_login :
    ∃ login redirect, LoginUrl.parse paddedLogin = .ok login ∧
      build login "service".toList spacedService.url.written {} = .ok redirect ∧
      redirect.loginUrl = "https://s\\so%2D.Example.n%4ET :443/cas//login?locale=de#top".toList ∧
      ∃ parts, split redirect.loginUrl = .ok parts ∧
        Moved paddedParts "s\\so%2D.Example.n%4ET ".toList parts := by
  have login_eq : Absolute.parse paddedLogin = .ok paddedParts :=
    Absolute.parse_of_split (by decide) (by decide +kernel)
  have service_eq : Absolute.parse spacedService.url.written = .ok spacedService :=
    Absolute.parse_of_split (by decide) (by decide +kernel)
  have host_eq : paddedParts.host = "s\\so%2D.Example".toList ++ '.' :: "org".toList := by decide
  have parsed := LoginUrl.parse_of_host login_eq host_eq (by decide) (by decide) (by decide)
  have bare : Bare paddedParts.url.authority :=
    ⟨List.all_eq_true.mp (by decide), by decide, by decide⟩
  have bareService : Bare spacedService.url.authority :=
    ⟨List.all_eq_true.mp (by decide), by decide, by decide⟩
  rcases rewriting_moves_only_the_host parsed login_eq service_eq bare bareService "service".toList
    {} with ⟨redirect, built, ⟨parts, split_parts, moved⟩, -⟩
  have target : (build ⟨"s\\so%2D.Example".toList, "org".toList, strip paddedLogin⟩ "service".toList
      spacedService.url.written {}).toOption.map loginUrl =
        some "https://s\\so%2D.Example.n%4ET :443/cas//login?locale=de#top".toList := by
    decide +kernel
  rw [built] at target
  exact ⟨_, redirect, parsed, built, Option.some.inj target, parts, split_parts, moved⟩

end LoginRedirect

end SignOnGate
