import SignOnGate.Proofs.Gateway.Awaits
import SignOnGate.Proofs.Gateway.Key
import SignOnGate.Proofs.ServiceUrl
import SignOnGate.Proofs.Url.Secured
import SignOnGate.Proofs.Url.Spelling

/-!
# Coming back to the `https` form

An attempt is stored under the key of the service URL as it was asked for, and the client comes back
to the `https` form of it. The two have the same key exactly when the upgrade spells the authority
as it was spelled, up to case: without user information, with the port as a plain number, and with
brackets around a host that has a colon and around no other. A blank at the end is lost as well,
because the service URL is stripped before it is upgraded.
-/

namespace SignOnGate

namespace Url

open Text

variable {text : Text} {url parts : Url} {char mark : Char}

/-! ## What stripping loses -/

theorem Sound.stripFront_written (sound : url.Sound) : stripFront url.written = url.written := by
  rw [written, List.append_assoc]
  exact sound.shaped.stripFront_append _

/-- A URL that does not end in a blank is split into the same parts when it is stripped before. -/
theorem Sound.eq_of_split_strip (sound : url.Sound)
    (ends : ∀ char ∈ url.written.getLast?, isBlank char = false)
    (split_strip : split (strip url.written) = .ok parts) :
    parts = { url with fragment := [] } := by
  rw [strip, sound.stripFront_written, stripEnd_of_getLast ends, sound.split_written] at split_strip
  exact (Except.ok.inj split_strip).symm

/-- What is cut at a mark and put together again does not become longer. -/
theorem length_cut_le (mark : Char) (text : Text) :
    (before mark text ++ marked mark (after mark text)).length ≤ text.length := by
  by_cases member : mark ∈ text
  · have whole := congrArg List.length (before_append_after member)
    have one : (marked mark (after mark text)).length ≤ (after mark text).length + 1 := by
      rw [marked]
      split <;> simp
    simp only [List.length_append, List.length_cons] at whole ⊢
    omega
  · simp [before_of_not_mem member, after_of_not_mem member, marked]

/-- Behind an authority, stripping takes something away from the path or the query. -/
theorem Sound.length_of_split_strip (sound : url.Sound)
    (behind_ne_nil : url.path ++ marked '?' url.query ≠ []) (isLast : char ∈ url.written.getLast?)
    (blank : isBlank char = true) (split_strip : split (strip url.written) = .ok parts) :
    (parts.path ++ marked '?' parts.query).length <
      (url.path ++ marked '?' url.query).length := by
  have stops := sound.stops_written
  have quiet := sound.quiet_written
  rw [strip, sound.stripFront_written, written, List.append_assoc] at split_strip
  rw [written, List.append_assoc, List.getLast?_append_of_ne_nil _ behind_ne_nil] at isLast
  generalize url.path ++ marked '?' url.query = behind at *
  rcases exists_stripEnd_append isLast blank with ⟨tail, tail_ne_nil, whole⟩
  have shorter : (stripEnd behind).length < behind.length := by
    have lengths := congrArg List.length whole
    have positive := List.length_pos_iff.mpr tail_ne_nil
    rw [List.length_append] at lengths
    omega
  cases behind with
  | nil => exact absurd rfl behind_ne_nil
  | cons first others =>
      have solid := isBlank_of_endsAuthority (stops first rfl)
      have kept : stripEnd (first :: others) = first :: stripEnd others :=
        stripEnd_cons solid others
      rw [stripEnd_append _ (by simp [kept]), sound.split_append ?_ ?_] at split_strip
      · have cut := length_cut_le '?' (before '#' (stripEnd (first :: others)))
        have front : (before '#' (stripEnd (first :: others))).length ≤ _ :=
          (List.takeWhile_prefix _).length_le
        cases split_strip
        exact (cut.trans front).trans_lt shorter
      · intro char isHead
        rw [kept] at isHead
        exact stops char isHead
      · intro char member
        exact quiet char (mem_of_mem_stripEnd member)

/-- With nothing behind it, the authority is stripped. -/
theorem Sound.authority_of_split_strip (sound : url.Sound)
    (nothingBehind : url.path ++ marked '?' url.query = [])
    (split_strip : split (strip url.written) = .ok parts) :
    parts.authority = stripEnd url.authority := by
  have shaped : { url with authority := stripEnd url.authority }.Shaped := by
    refine ⟨sound.scheme, sound.scheme_small, ?_, ?_⟩
    · intro char member
      exact sound.authority_inside char (mem_of_mem_stripEnd member)
    · intro char member
      exact sound.authority_quiet char (mem_of_mem_stripEnd member)
  have slash : isBlank '/' = false := rfl
  have slashed := stripEnd_append_cons (url.scheme ++ [':', '/']) slash url.authority
  have stripped : strip url.written =
      url.scheme ++ "://".toList ++ stripEnd url.authority ++ [] := by
    rw [strip, sound.stripFront_written, written, List.append_assoc, nothingBehind]
    simpa using slashed
  rw [stripped] at split_strip
  exact (shaped.authority_of_split (by simp) (by simp) split_strip).1

/-- The host of an authority stands in it in one piece. -/
theorem rawHost_isInfix (authority : Text) : rawHost authority <:+: authority := by
  have part : hostPart authority <:+ authority := by
    have front := List.takeWhile_prefix (l := authority.reverse) (· != '@')
    simpa [hostPart, afterLast, before] using List.reverse_suffix.mpr front
  have behind (mark : Char) (text : Text) : after mark text <:+ text :=
    (List.drop_suffix 1 _).trans (List.dropWhile_suffix _)
  have front (mark : Char) (text : Text) : before mark text <+: text := List.takeWhile_prefix _
  simp only [rawHost]
  split
  · exact (front ']' _).isInfix.trans ((behind '[' _).trans part).isInfix
  · exact (front ':' _).isInfix.trans part.isInfix

/-- An authority that is stripped at its end is not made up for by the host that is left. -/
theorem lower_ne_of_stripEnd {authority : Text} {port : Option Nat}
    (isLast : char ∈ authority.getLast?)
    (blank : isBlank char = true) :
    lower authority ≠ lower (authorityOf (lowerHost (rawHost (stripEnd authority))) port) := by
  intro same
  have still := isStill_of_isBlank blank
  have lastLower : (lower authority).getLast? = some char :=
    getLast_lowerFrom_of_isSmall (isSmall_of_isStill still) isLast
  -- So the new authority ends in the blank as well, and is the lowered host alone.
  rw [same] at lastLower
  have lastPut := getLast_of_getLast_lowerFrom (isUnreached_of_isStill still) lastLower
  rw [(authorityOf_eq_self_of_blank lastPut blank).2, lower_lowerHost] at same
  rcases exists_stripEnd_append isLast blank with ⟨tail, tail_ne_nil, whole⟩
  have lengths := congrArg List.length same
  have hostLength := length_lower_le_of_isInfix (rawHost_isInfix (stripEnd authority))
  have tailLength := List.length_pos_iff.mpr (lowerFrom_ne_nil false tail_ne_nil)
  rw [← whole, length_lower_append, whole] at lengths
  simp only [lower] at *
  omega

end Url

namespace Gateway

open Text Url

variable {url : Url} {service : Absolute} {port : Option Nat}

theorem key_written (sound : url.Sound) :
    key url.written =
      '/' :: '/' :: (lower url.authority ++ (url.path ++ marked '?' url.query)) := by
  have key_eq := key_of_split sound.split_written sound.authority_ne_nil
  exact key_eq

theorem splitAuthority_key_written (sound : url.Sound) :
    splitAuthority (key url.written) = (lower url.authority, url.path ++ marked '?' url.query) := by
  have parts := splitAuthority_key sound.split_written sound.authority_ne_nil
  exact parts

/-- A key is no `https` form, so the form has to be split when it has the key of a URL. -/
theorem exists_split_of_key_eq (sound : url.Sound) {secured : Text}
    (isHead : secured.head? = some 'h') (same : key secured = key url.written) :
    ∃ parts, split secured = .ok parts := by
  cases split_secured : split secured with
  | ok parts => exact ⟨parts, rfl⟩
  | error fault =>
      have own : key secured = secured := by simp [key, split_secured]
      rw [← own, same, key_written sound] at isHead
      cases isHead

section Secured

variable (sound : url.Sound) (parsed : Absolute.parse url.written = .ok service)

include sound parsed

/-- A URL that shares its key with its `https` form does not end in a blank. -/
theorem ends_of_key_eq
    (authority_eq : lower (authorityOf service.host service.port) = lower url.authority)
    (behind_eq : service.url.path ++ marked '?' service.url.query =
      url.path ++ marked '?' url.query) :
    ∀ char ∈ url.written.getLast?, isBlank char = false := by
  have split_strip := (Absolute.parse_eq_ok parsed).2
  intro char isLast
  by_contra notSolid
  have blank : isBlank char = true := by simpa using notSolid
  by_cases nothingBehind : url.path ++ marked '?' url.query = []
  · rw [service.host_eq, sound.authority_of_split_strip nothingBehind split_strip] at authority_eq
    rw [written, List.append_assoc, nothingBehind, List.append_nil,
      List.getLast?_append_of_ne_nil _ sound.authority_ne_nil] at isLast
    exact lower_ne_of_stripEnd isLast blank authority_eq.symm
  · have shorter := sound.length_of_split_strip nothingBehind isLast blank split_strip
    rw [behind_eq] at shorter
    exact shorter.false

/-- Without a blank at the end, the parts of the service URL are those that were written. -/
theorem parts_of_ends (port_eq : url.port? = .ok port)
    (ends : ∀ char ∈ url.written.getLast?, isBlank char = false) :
    service.url = { url with fragment := [] } ∧
      service.host = lowerHost (rawHost url.authority) ∧ service.port = port := by
  have url_eq := sound.eq_of_split_strip ends (Absolute.parse_eq_ok parsed).2
  have port_service := service.port?_eq
  rw [url_eq] at port_service
  refine ⟨url_eq, ?_, Except.ok.inj (port_service.symm.trans port_eq)⟩
  rw [service.host_eq, url_eq]

/-- A URL that has the key of a secured service URL is spelled like one that was put together. -/
theorem spelled_of_key_eq (port_eq : url.port? = .ok port)
    (same : key (service.url.secured service.host service.port).written = key url.written) :
    (∀ char ∈ url.written.getLast?, isBlank char = false) ∧
      url.authority = authorityOf (rawHost url.authority) port := by
  have soundService := service.sound (Absolute.parse_eq_ok parsed).2
  rcases exists_split_of_key_eq sound rfl same with ⟨parts, split_secured⟩
  have soundSecured := service.sound_secured_of_split soundService split_secured
  have agree := congrArg splitAuthority same
  rw [splitAuthority_key_written sound, splitAuthority_key_written soundSecured,
    Prod.mk.injEq] at agree
  have ends := ends_of_key_eq sound parsed agree.1 agree.2
  rcases parts_of_ends sound parsed port_eq ends with ⟨-, host_eq, samePort⟩
  refine ⟨ends, eq_authorityOf_of_lower sound port_eq ?_ ?_⟩
  · intro noHost
    apply service.host_ne_nil
    rw [host_eq, noHost]
    rfl
  · rw [← lower_authorityOf_lowerHost, ← host_eq, ← samePort]
    exact agree.1.symm

/-- A URL that is spelled like one that was put together has the key of its secured form. -/
theorem key_eq_of_spelled (port_eq : url.port? = .ok port)
    (ends : ∀ char ∈ url.written.getLast?, isBlank char = false)
    (spelled : url.authority = authorityOf (rawHost url.authority) port) :
    key (service.url.secured service.host service.port).written = key url.written := by
  have soundService := service.sound (Absolute.parse_eq_ok parsed).2
  rcases parts_of_ends sound parsed port_eq ends with ⟨url_eq, host_eq, samePort⟩
  have stands : CanStand service.host := by
    rw [host_eq]
    exact (canStand_of_checkBrackets sound.isInnerChar_of_mem_rawHost
      (head_rawHost_ne_bracket sound.brackets) spelled sound.brackets port_eq).lowerHost
  have checked := (service.reads_secured soundService stands).1
  have soundSecured := service.sound_secured soundService checked
  have lowered : lower (authorityOf service.host service.port) = lower url.authority := by
    rw [host_eq, samePort, lower_authorityOf_lowerHost, ← spelled]
  rw [key_written soundSecured, key_written sound, secured, lowered, url_eq]

/-- The key of the `https` form is the key of the URL when the authority is put together again. -/
theorem key_secured_eq_iff (port_eq : url.port? = .ok port) :
    key (service.url.secured service.host service.port).written = key url.written ↔
      (∀ char ∈ url.written.getLast?, isBlank char = false) ∧
        url.authority = authorityOf (rawHost url.authority) port := by
  constructor
  · exact spelled_of_key_eq sound parsed port_eq
  · rintro ⟨ends, spelled⟩
    exact key_eq_of_spelled sound parsed port_eq ends spelled

end Secured

/-! ## Being recognised -/

/--
A service URL that comes back under its own key: if it is upgraded at all, it does not end in a
blank, and its authority is spelled like one that is put together from its host and its port.
-/
def ReturnsAsStored (absolute : Absolute) (serviceUrl : Text) : Prop :=
  absolute.url.scheme = "http".toList →
    (∀ char ∈ serviceUrl.getLast?, isBlank char = false) ∧
      absolute.url.authority = authorityOf (rawHost absolute.url.authority) absolute.port

section Returning

variable {text artifact serviceUrl upgraded : Text} {absolute : Absolute}

theorem scheme_of_parse_written {url : Url} {service : Absolute} (sound : url.Sound)
    (parsed : Absolute.parse url.written = .ok service) : service.url.scheme = url.scheme := by
  have split_strip := (Absolute.parse_eq_ok parsed).2
  rcases scheme_of_split_strip split_strip service.scheme_ne_nil sound.split_written with
    none | same
  · exact absurd none (ne_nil_of_isScheme sound.scheme)
  · exact same.symm

/--
The service URL of a request has the key of its upgrade exactly if it comes back under its own key.
-/
theorem key_upgraded_eq_iff (parsed : Absolute.parse text = .ok absolute)
    (served : ServiceUrl.ofText text artifact none = .ok serviceUrl)
    (upgrade : upgradeToHttps serviceUrl = .ok upgraded) :
    key upgraded = key serviceUrl ↔ ReturnsAsStored absolute serviceUrl := by
  have sound := (absolute.sound (Absolute.parse_eq_ok parsed).2).withoutField artifact
  have port_eq : (absolute.url.withoutField artifact).port? = .ok absolute.port := absolute.port?_eq
  rw [ServiceUrl.ofText_of_parse parsed artifact, Except.ok.injEq] at served
  subst served
  cases parsedService : Absolute.parse (absolute.url.withoutField artifact).written with
  | error rejection =>
      rw [upgradeToHttps, parsedService] at upgrade
      cases upgrade
  | ok service =>
      have scheme_eq := scheme_of_parse_written sound parsedService
      have split_strip := (Absolute.parse_eq_ok parsedService).2
      by_cases isHttp : absolute.url.scheme = "http".toList
      · have upgrade_eq := service.upgradeToHttps_of_http (service.sound split_strip) parsedService
          (scheme_eq.trans isHttp)
        rw [upgrade, Except.ok.injEq] at upgrade_eq
        rw [upgrade_eq, key_secured_eq_iff sound parsedService port_eq]
        exact ⟨fun spelled _ => spelled, fun returns => returns isHttp⟩
      · have notHttp : service.url.scheme ≠ "http".toList := fun same =>
          isHttp (scheme_eq.symm.trans same)
        have kept := upgradeToHttps_of_not_http parsedService notHttp
        rw [upgrade, Except.ok.injEq] at kept
        exact iff_of_true (congrArg key kept) fun same => absurd same isHttp

/--
The first visit to the `https` form of a service URL is recognised exactly when the form has the key
of the service URL, and that depends on the spelling of the authority only.
-/
theorem return_is_recognised_iff (parsed : Absolute.parse text = .ok absolute)
    (served : ServiceUrl.ofText text artifact none = .ok serviceUrl)
    (upgrade : upgradeToHttps serviceUrl = .ok upgraded) {attemptsKey : Text} {memory left : Memory}
    {request : Request} (returning : Request) {fresh : Fresh} {settled : Text}
    (nothing : memory.sessionValue? attemptsKey = none)
    (remembered : (Resolver.session attemptsKey).remember request serviceUrl fresh memory =
      (.ok settled, left)) :
    (key upgraded = key serviceUrl ↔ ReturnsAsStored absolute serviceUrl) ∧
      (((Resolver.session attemptsKey).consume returning upgraded left).1 = .ok true ↔
        ReturnsAsStored absolute serviceUrl) := by
  have agree := key_upgraded_eq_iff parsed served upgrade
  have stored : Attempts.Stored (memory.sessionValue? attemptsKey) ∅ := by
    rw [nothing]
    exact .absent
  have pending := (Resolver.stored_of_remember stored remembered).2
  rcases Resolver.exists_consume (Resolver.builtIn_session attemptsKey) returning upgraded left with
    ⟨recognised, consumed, consume, -⟩
  have recognised_iff := (Resolver.stored_of_consume pending consume).1
  refine ⟨agree, ?_⟩
  rw [consume, ← agree]
  simpa using recognised_iff

end Returning

/-- The client comes back over `https` with the port in its usual form, and is not recognised. -/
theorem return_is_missed_at_padded_port :
    ∃ upgraded left, upgradeToHttps "http://app.example.org:080/home".toList = .ok upgraded ∧
      Resolver.standard.remember (.ofFields [] [] none) "http://app.example.org:080/home".toList
        ⟨['m'], ['s']⟩ { session := some .empty } =
          (.ok "http://app.example.org:080/home".toList, left) ∧
      key upgraded ≠ key "http://app.example.org:080/home".toList ∧
      (Resolver.standard.consume (.ofFields [] [] none) upgraded left).1 ≠ .ok true := by
  let absolute : Absolute := {
    url := {
      scheme := "http".toList
      authority := "app.example.org:080".toList
      path := "/home".toList }
    host := "app.example.org".toList
    port := some 80
    scheme_ne_nil := by decide
    hostname?_eq := by decide +kernel
    port?_eq := by decide +kernel }
  have parsed : Absolute.parse "http://app.example.org:080/home".toList = .ok absolute :=
    Absolute.parse_of_split (by decide) (by decide +kernel)
  have served := ServiceUrl.ofText_of_parse parsed "ticket".toList
  have sound := absolute.sound (Absolute.parse_eq_ok parsed).2
  have upgrade := absolute.upgradeToHttps_of_http sound parsed rfl
  have padded : ¬ReturnsAsStored absolute "http://app.example.org:080/home".toList := by
    intro returns
    exact absurd (returns rfl).2 (by decide +kernel)
  have stored : Attempts.Stored (Memory.sessionValue? { session := some .empty } attemptsKey) ∅ :=
    .absent
  rcases Resolver.exists_remember_of_stored stored (by simp) (.ofFields [] [] none)
    "http://app.example.org:080/home".toList ⟨['m'], ['s']⟩ with ⟨left, remembered, -, -⟩
  rcases return_is_recognised_iff parsed served upgrade (.ofFields [] [] none) rfl remembered with
    ⟨keys, recognised⟩
  exact ⟨_, left, upgrade, remembered, mt keys.mp padded, mt recognised.mp padded⟩

end Gateway

end SignOnGate
