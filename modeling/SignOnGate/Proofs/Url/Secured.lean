import SignOnGate.Proofs.Url.Address
import SignOnGate.Proofs.Url.Marks
import SignOnGate.Proofs.Url.Quiet

/-!
# The `https` form of accepted URLs

The authority of an `https` form is put together from the host and the port that were read. They are
read again as they were when the authority is `Ordinary`: its user information has no bracket that
could pass for one of the host, and a host in brackets is an address, which has a colon and is put
in brackets again. A text with another scheme is its own `https` form, with the blanks around it,
and these do not bring the scheme `http` in.
-/

namespace SignOnGate

namespace Url

open Text

/-- User information without brackets, and no literal of a future version as a host. -/
structure Ordinary (authority : Text) : Prop where
  user_noOpening : '[' ∉ beforeLast '@' authority
  user_noClosing : ']' ∉ beforeLast '@' authority
  noFuture : '[' ∈ hostPart authority → isFutureAddress (rawHost authority) = false

variable {text host authority : Text} {url parts : Url} {absolute : Absolute} {char : Char}

/-! ## Hosts that can stand -/

/-- A host that can stand in an authority can do so in small letters. -/
theorem CanStand.lowerHost (stands : CanStand host) : CanStand (lowerHost host) := by
  have kept (mark : Char) (still : isStill mark = true) : mark ∈ Url.lowerHost host ↔ mark ∈ host :=
    ⟨mem_of_mem_lowerHost (isUnreached_of_isStill still),
      mem_lowerHost_of_isSmall (isSmall_of_isStill still)⟩
  have colon_iff := kept ':' (by decide)
  have opening_iff := kept '[' (by decide)
  have closing_iff := kept ']' (by decide)
  simp only [CanStand, colon_iff, opening_iff, closing_iff] at stands ⊢
  split at stands
  · rename_i colon
    rw [if_pos colon]
    exact ⟨stands.1, checkBracketedHost_lowerHost stands.2⟩
  · rename_i noColon
    rw [if_neg noColon]
    exact stands

/--
Every character of an authority but the at-sign belongs to the user information or to what is behind
it.
-/
theorem mem_user_or_hostPart (member : char ∈ authority) (different : char ≠ '@') :
    char ∈ beforeLast '@' authority ∨ char ∈ hostPart authority := by
  by_cases user : '@' ∈ authority
  · rw [← beforeLast_append_afterLast user, List.mem_append, List.mem_cons] at member
    rcases member with inUser | isMark | inHost
    · exact Or.inl inUser
    · exact absurd isMark different
    · exact Or.inr inHost
  · right
    rwa [hostPart, afterLast_of_not_mem user]

theorem opening_of_closing (checked : checkBrackets authority = .ok ())
    (closing : ']' ∈ authority) :
    '[' ∈ authority := by
  by_contra noOpening
  simp [checkBrackets, noOpening, closing] at checked

/-- The host of an ordinary authority can stand in another one. -/
theorem Ordinary.canStand_rawHost (ordinary : Ordinary authority)
    (checked : checkBrackets authority = .ok ()) : CanStand (rawHost authority) := by
  by_cases bracket : '[' ∈ hostPart authority
  · have host_eq : rawHost authority = before ']' (after '[' (hostPart authority)) := by
      simp [rawHost, bracket]
    have checkedHost := (brackets_of_opening bracket checked).2.2.2
    have address : isIpv6 (rawHost authority) = true := by
      have literal := checkBracketedHost_eq_ok_iff.mp checkedHost
      simpa [ordinary.noFuture bracket] using literal
    rw [CanStand, if_pos (colon_of_isIpv6 address)]
    refine ⟨?_, checkedHost⟩
    rw [host_eq]
    exact not_mem_before ']' _
  · have noColon : ':' ∉ rawHost authority := by
      simp only [rawHost, if_neg bracket]
      exact not_mem_before ':' _
    have noOpening : '[' ∉ authority := by
      intro opening
      rcases mem_user_or_hostPart opening (by decide) with inUser | inHost
      · exact ordinary.user_noOpening inUser
      · exact bracket inHost
    rw [CanStand, if_neg noColon]
    constructor
    · intro opening
      exact bracket (mem_of_mem_rawHost opening)
    · intro closing
      have inAuthority := mem_of_mem_afterLast (mem_of_mem_rawHost closing)
      exact noOpening (opening_of_closing checked inAuthority)

/-! ## The `https` form -/

section Secured

variable (sound : absolute.url.Sound)

include sound

theorem Absolute.shaped_secured : (absolute.url.secured absolute.host absolute.port).Shaped := by
  have inner :=
    isInnerChar_of_mem_authorityOf absolute.port (absolute.isInnerChar_of_mem_host sound)
  have isScheme_https : isScheme "https".toList = true := by decide
  have small_https : lowerAscii "https".toList = "https".toList := by decide
  refine ⟨isScheme_https, small_https, ?_, ?_⟩
  · intro char member
    exact (isInnerChar_iff.mp (inner char member)).2.1
  · intro char member
    exact (isInnerChar_iff.mp (inner char member)).2.2.1

theorem Absolute.sound_secured
    (checked : checkBrackets (authorityOf absolute.host absolute.port) = .ok ()) :
    (absolute.url.secured absolute.host absolute.port).Sound := by
  have rehosted :=
    sound.rehosted (absolute.isInnerChar_of_mem_host sound) absolute.host_ne_nil checked
  have shaped := absolute.shaped_secured sound
  exact { rehosted with scheme := shaped.scheme, scheme_small := shaped.scheme_small }

/-- The `https` form is sound as soon as it can be split. -/
theorem Absolute.sound_secured_of_split
    (split_secured : split (absolute.url.secured absolute.host absolute.port).written = .ok parts) :
    (absolute.url.secured absolute.host absolute.port).Sound := by
  apply absolute.sound_secured sound
  rw [written, List.append_assoc] at split_secured
  exact ((absolute.shaped_secured sound).authority_of_split sound.stops_written sound.quiet_written
    split_secured).2

/-- Host and port are read from the `https` form as they were read before. -/
theorem Absolute.reads_secured (stands : CanStand absolute.host) :
    checkBrackets (authorityOf absolute.host absolute.port) = .ok () ∧
      (absolute.url.secured absolute.host absolute.port).hostname? = some absolute.host ∧
      (absolute.url.secured absolute.host absolute.port).port? = .ok absolute.port := by
  have inner := absolute.isInnerChar_of_mem_host sound
  have authority_eq : (absolute.url.secured absolute.host absolute.port).authority =
      authorityOf absolute.host absolute.port := rfl
  have reads := reads_of_authority authority_eq stands inner absolute.host_ne_nil absolute.port_le
  rw [absolute.lowerHost_host] at reads
  exact ⟨(reads_of_canStand absolute.port stands inner).1, reads⟩

theorem Absolute.upgradeToHttps_of_http (parsed : parse text = .ok absolute)
    (isHttp : absolute.url.scheme = "http".toList) :
    upgradeToHttps text = .ok (absolute.url.secured absolute.host absolute.port).written := by
  have joined := join_eq (absolute.url.secured absolute.host absolute.port)
    (absolute.shaped_secured sound).scheme (authorityOf_ne_nil_of_host absolute.host_ne_nil)
    sound.path_start
  rw [upgradeToHttps, parsed]
  simp only [if_pos isHttp, Except.ok.injEq]
  exact joined.trans (List.append_nil _)

end Secured

theorem upgradeToHttps_of_not_http (parsed : Absolute.parse text = .ok absolute)
    (notHttp : absolute.url.scheme ≠ "http".toList) : upgradeToHttps text = .ok text := by
  rw [upgradeToHttps, parsed]
  simp only [if_neg notHttp]

/-! ## Schemes behind blanks -/

theorem scheme_of_split (split_text : split text = .ok url) :
    url.scheme = (splitScheme (cleaned text)).1 := by
  rcases split_eq_ok split_text with ⟨rest, behind, scheme_eq, -⟩
  rw [scheme_eq]

/-- A scheme that was found stays, whatever is put behind the text. -/
theorem scheme_append (found : (splitScheme text).1 ≠ []) (behind : Text) :
    (splitScheme (text ++ behind)).1 = (splitScheme text).1 := by
  rw [splitScheme] at found
  split at found
  · rename_i named
    have parts := named
    rw [Bool.and_eq_true, List.contains_iff_mem] at parts
    have namedToo : ((text ++ behind).contains ':' && isScheme (before ':' text)) = true := by
      rw [Bool.and_eq_true, List.contains_iff_mem]
      exact ⟨List.mem_append_left _ parts.1, parts.2⟩
    rw [splitScheme, splitScheme, before_append_of_mem_left parts.1, if_pos named, if_pos namedToo]
  · exact absurd rfl found

theorem scheme_cleaned_append (found : (splitScheme (cleaned text)).1 ≠ []) (behind : Text) :
    (splitScheme (cleaned (text ++ behind))).1 = (splitScheme (cleaned text)).1 := by
  have nonempty : (text.dropWhile isLeadingNoise).isEmpty = false := by
    rw [Bool.eq_false_iff]
    intro empty
    apply found
    rw [cleaned, List.isEmpty_iff.mp empty]
    rfl
  have whole : cleaned (text ++ behind) = cleaned text ++ quieted behind := by
    simp [cleaned, quieted, List.dropWhile_append, nonempty]
  rw [whole]
  exact scheme_append found _

/-- A blank in front of a text is dropped, or no scheme is found behind it. -/
theorem cleaned_cons_of_isBlank (blank : isBlank char = true) (rest : Text) :
    cleaned (char :: rest) = cleaned rest ∨ (splitScheme (cleaned (char :: rest))).1 = [] := by
  by_cases noise : isLeadingNoise char = true
  · left
    simp [cleaned, noise]
  · right
    have kept : isInnerNoise char = false := by
      apply isInnerNoise_of_space_le
      simp only [isLeadingNoise, decide_eq_true_eq] at noise
      omega
    have shape : cleaned (char :: rest) = char :: quieted rest := by
      simp [cleaned, quieted, noise, kept]
    have notColon : char ≠ ':' := by
      rintro rfl
      cases blank
    rw [shape, splitScheme, if_neg]
    intro named
    rw [Bool.and_eq_true] at named
    have schemeChar := (isScheme_iff.mp named.2).2 char (by simp [before, notColon])
    rw [isBlank_of_isSchemeChar schemeChar] at blank
    cases blank

/-- Blanks at the front either hide the scheme, or are removed with the noise. -/
theorem scheme_cleaned_stripFront (text : Text) :
    (splitScheme (cleaned text)).1 = [] ∨ cleaned text = cleaned (stripFront text) := by
  induction text with
  | nil => exact Or.inr rfl
  | cons head rest ih =>
      cases blank : isBlank head with
      | false => simp [stripFront, blank]
      | true =>
          have stripped : stripFront (head :: rest) = stripFront rest := by simp [stripFront, blank]
          rw [stripped]
          rcases cleaned_cons_of_isBlank blank rest with dropped | noScheme
          · rwa [dropped]
          · exact Or.inl noScheme

/-- With blanks around it, a text has the scheme that it has without them, or none. -/
theorem scheme_of_split_strip (split_strip : split (strip text) = .ok url)
    (scheme_ne_nil : url.scheme ≠ []) (split_text : split text = .ok parts) :
    parts.scheme = [] ∨ parts.scheme = url.scheme := by
  rcases List.rdropWhile_prefix isBlank (stripFront text) with ⟨tail, whole⟩
  have front : strip text ++ tail = stripFront text := whole
  rw [scheme_of_split split_text]
  rw [scheme_of_split split_strip] at scheme_ne_nil ⊢
  rcases scheme_cleaned_stripFront text with noScheme | same
  · exact Or.inl noScheme
  · right
    rw [same, ← front]
    exact scheme_cleaned_append scheme_ne_nil tail

/-! ## What the upgrade keeps -/

/-- The upgrade changes nothing but the scheme, the user information and the fragment. -/
theorem upgrade_keeps_host_port_path_and_query (parsed : Absolute.parse text = .ok absolute)
    (ordinary : Ordinary absolute.url.authority) :
    ∃ upgraded, upgradeToHttps text = .ok upgraded ∧
      (absolute.url.scheme ≠ "http".toList → upgraded = text) ∧
      (absolute.url.scheme = "http".toList → ∃ parts, split upgraded = .ok parts ∧
        parts.scheme = "https".toList ∧ '@' ∉ parts.authority ∧ parts.fragment = [] ∧
        parts.hostname? = some absolute.host ∧ parts.port? = .ok absolute.port ∧
        parts.path = absolute.url.path ∧ parts.query = absolute.url.query) ∧
      ∀ parts, split upgraded = .ok parts → parts.scheme ≠ "http".toList := by
  rcases Absolute.parse_eq_ok parsed with ⟨-, split_strip⟩
  have sound := absolute.sound split_strip
  have stands : CanStand absolute.host := by
    rw [absolute.host_eq]
    exact (ordinary.canStand_rawHost sound.brackets).lowerHost
  by_cases isHttp : absolute.url.scheme = "http".toList
  · have upgrade := absolute.upgradeToHttps_of_http sound parsed isHttp
    rcases absolute.reads_secured sound stands with ⟨checked, hostname, port⟩
    have split_upgraded := (absolute.sound_secured sound checked).split_written
    have noUser : '@' ∉ authorityOf absolute.host absolute.port := by
      intro user
      have inner := isInnerChar_of_mem_authorityOf absolute.port
        (absolute.isInnerChar_of_mem_host sound) '@' user
      cases inner
    refine ⟨_, upgrade, fun notHttp => absurd isHttp notHttp, fun _ => ?_, ?_⟩
    · exact ⟨_, split_upgraded, rfl, noUser, rfl, hostname, port, rfl, rfl⟩
    · have notHttp : "https".toList ≠ "http".toList := by decide
      intro parts split_parts
      rw [split_upgraded] at split_parts
      cases split_parts
      exact notHttp
  · refine ⟨text, upgradeToHttps_of_not_http parsed isHttp, fun _ => rfl,
      fun same => absurd same isHttp, ?_⟩
    intro parts split_parts
    rcases scheme_of_split_strip split_strip absolute.scheme_ne_nil split_parts with none | same
    · rw [none]
      decide
    · rwa [same]

/-- The zone of an address keeps its letters, and the port loses its zeros only. -/
theorem upgrade_keeps_zone_and_port :
    ∃ upgraded, upgradeToHttps "http://user:pw@[FE80::1%25Eth0]:0080/a//b?c=1#top".toList =
        .ok upgraded ∧
      ∃ parts, split upgraded = .ok parts ∧ parts.scheme = "https".toList ∧ '@' ∉ parts.authority ∧
        parts.hostname? = some "fe80::1%25Eth0".toList ∧ parts.port? = .ok (some 80) := by
  let absolute : Absolute := {
    url := {
      scheme := "http".toList
      authority := "user:pw@[FE80::1%25Eth0]:0080".toList
      path := "/a//b".toList
      query := "c=1".toList
      fragment := "top".toList }
    host := "fe80::1%25Eth0".toList
    port := some 80
    scheme_ne_nil := by decide
    hostname?_eq := by decide +kernel
    port?_eq := by decide +kernel }
  have parsed : Absolute.parse "http://user:pw@[FE80::1%25Eth0]:0080/a//b?c=1#top".toList =
      .ok absolute :=
    Absolute.parse_of_split (by decide) (by decide +kernel)
  have ordinary : Ordinary absolute.url.authority :=
    ⟨by decide +kernel, by decide +kernel, by decide +kernel⟩
  rcases upgrade_keeps_host_port_path_and_query parsed ordinary with
    ⟨upgraded, upgrade, -, changed, -⟩
  rcases changed rfl with ⟨parts, split_upgraded, scheme, noUser, -, hostname, port, -⟩
  exact ⟨upgraded, upgrade, parts, split_upgraded, scheme, noUser, hostname, port⟩

end Url

end SignOnGate
