import SignOnGate.Proofs.Url.Authority
import SignOnGate.Url.Absolute

/-!
# Absolute URLs in plain form

Parsing the text of plain parts gives the parts back. The `https` form of such a text is the text of
plain parts again, and it is its own `https` form: the port may be spelled in another way and the
host may change its case once, but not twice.
-/

namespace SignOnGate

namespace Url

open Text

/-- Plain parts that make up an absolute URL. -/
structure Complete (url : Url) : Prop extends Plain url where
  hostname : ∃ host, url.hostname? = some host
  port : ∃ port, url.port? = .ok port

variable {text : Text} {url : Url}

/-! ## Parsing -/

/--
A text that is an absolute URL is not blank, and stripped it splits into the parts of the URL.
-/
theorem Absolute.parse_eq_ok {absolute : Absolute} (parsed : Absolute.parse text = .ok absolute) :
    isBlankText text = false ∧ split (strip text) = .ok absolute.url := by
  rw [Absolute.parse] at parsed
  split at parsed
  · cases parsed
  · rename_i notBlank
    refine ⟨by simpa using notBlank, ?_⟩
    split at parsed
    · cases parsed
    · rename_i url split_text
      split at parsed
      · cases parsed
      · split at parsed
        · cases parsed
        · split at parsed
          · cases parsed
          · cases parsed
            exact split_text

/-- An absolute URL is read from any text that is not blank and splits into its parts. -/
theorem Absolute.parse_of_split {absolute : Absolute} (notBlank : isBlankText text = false)
    (split_text : split (strip text) = .ok absolute.url) : Absolute.parse text = .ok absolute := by
  obtain ⟨url, host, port, scheme_ne_nil, hostname_eq, port_eq⟩ := absolute
  rw [Absolute.parse, if_neg (by simp [notBlank])]
  split
  · rename_i fault failed
    rw [split_text] at failed
    cases failed
  · rename_i other split_other
    rw [split_text] at split_other
    cases split_other
    split
    · rename_i fault failed
      rw [port_eq] at failed
      cases failed
    · rename_i other port_other
      rw [port_eq] at port_other
      cases port_other
      split
      · rename_i noHost
        rw [hostname_eq] at noHost
        cases noHost
      · rename_i other hostname_other
        rw [hostname_eq] at hostname_other
        cases hostname_other
        rw [dif_neg scheme_ne_nil]

theorem Absolute.parse_strip {absolute : Absolute} (parsed : Absolute.parse text = .ok absolute) :
    Absolute.parse (strip text) = .ok absolute := by
  rcases Absolute.parse_eq_ok parsed with ⟨notBlank, split_text⟩
  apply Absolute.parse_of_split
  · rw [isBlankText_strip]
    exact notBlank
  · rw [strip_strip]
    exact split_text

theorem authority_ne_nil_of_hostname {host : Text} (hostname : url.hostname? = some host) :
    url.authority ≠ [] := by
  intro empty
  rw [hostname?, empty] at hostname
  simp [rawHost, hostPart, afterLast, before] at hostname

theorem Absolute.sound (absolute : Absolute) (split_text : split text = .ok absolute.url) :
    absolute.url.Sound :=
  (sound_of_split split_text absolute.scheme_ne_nil
    (authority_ne_nil_of_hostname absolute.hostname?_eq)).1

/-! ## Behind the authority -/

theorem isBlank_of_endsAuthority {char : Char} (ends : endsAuthority char = true) :
    isBlank char = false := by
  simp only [endsAuthority, Bool.or_eq_true, beq_iff_eq] at ends
  rcases ends with (rfl | rfl) | rfl <;> rfl

section Behind

variable {behind : Text}

theorem Shaped.stripFront_append (shaped : url.Shaped) (behind : Text) :
    stripFront (url.scheme ++ "://".toList ++ url.authority ++ behind) =
      url.scheme ++ "://".toList ++ url.authority ++ behind := by
  rcases shaped.exists_scheme_cons with ⟨head, rest, shape, solid, -⟩
  simp [stripFront, shape, solid]

/-- Stripping takes blanks off what stands behind the authority, and off the authority only when
nothing stands there. -/
theorem Shaped.strip_append (shaped : url.Shaped) (authority_ne_nil : url.authority ≠ [])
    (stops : ∀ char ∈ behind.head?, endsAuthority char = true)
    (ends : behind = [] → ∀ char ∈ url.authority.getLast?, isBlank char = false) :
    ∃ kept, strip (url.scheme ++ "://".toList ++ url.authority ++ behind) =
        url.scheme ++ "://".toList ++ url.authority ++ kept ∧
      (∀ char ∈ kept.head?, endsAuthority char = true) ∧ ∀ char ∈ kept, char ∈ behind := by
  rw [strip, shaped.stripFront_append]
  cases behind with
  | nil =>
      refine ⟨[], ?_, by simp, by simp⟩
      rw [List.append_nil]
      apply stripEnd_of_getLast
      rw [List.getLast?_append_of_ne_nil _ authority_ne_nil]
      exact ends rfl
  | cons first others =>
      have solid := isBlank_of_endsAuthority (stops first rfl)
      refine ⟨first :: stripEnd others, stripEnd_append_cons _ solid others, ?_, ?_⟩
      · intro char isHead
        cases isHead
        exact stops first rfl
      · rw [← stripEnd_cons solid]
        exact fun char => mem_of_mem_stripEnd

/-- A text that is accepted has the authority that stands in it. -/
theorem Shaped.authority_of_parse (shaped : url.Shaped) (authority_ne_nil : url.authority ≠ [])
    (stops : ∀ char ∈ behind.head?, endsAuthority char = true)
    (quiet : ∀ char ∈ behind, isInnerNoise char = false)
    (ends : behind = [] → ∀ char ∈ url.authority.getLast?, isBlank char = false)
    {absolute : Absolute}
    (parsed : Absolute.parse (url.scheme ++ "://".toList ++ url.authority ++ behind) =
      .ok absolute) :
    absolute.url.authority = url.authority ∧ checkBrackets url.authority = .ok () := by
  rcases shaped.strip_append authority_ne_nil stops ends with
    ⟨kept, strip_eq, stopsKept, fromBehind⟩
  have split_strip := (Absolute.parse_eq_ok parsed).2
  rw [strip_eq] at split_strip
  exact shaped.authority_of_split stopsKept (fun char member => quiet char (fromBehind char member))
    split_strip

/--
The host and the port of sound parts are read again from a text with their authority, unless the
authority ends in a blank and nothing stands behind it.
-/
theorem Sound.exists_parse_append (sound : url.Sound) {host : Text} {port : Option Nat}
    (hostname : url.hostname? = some host) (port_eq : url.port? = .ok port)
    (stops : ∀ char ∈ behind.head?, endsAuthority char = true)
    (quiet : ∀ char ∈ behind, isInnerNoise char = false)
    (ends : behind = [] → ∀ char ∈ url.authority.getLast?, isBlank char = false) :
    ∃ absolute, Absolute.parse (url.scheme ++ "://".toList ++ url.authority ++ behind) =
        .ok absolute ∧ absolute.host = host ∧ absolute.port = port := by
  rcases sound.shaped.exists_scheme_cons with ⟨head, rest, shape, solid, -⟩
  have scheme_ne_nil : url.scheme ≠ [] := by simp [shape]
  have notBlank :
      isBlankText (url.scheme ++ "://".toList ++ url.authority ++ behind) = false := by
    rw [isBlankText, List.all_eq_false]
    exact ⟨head, by simp [shape], by simp [solid]⟩
  rcases sound.shaped.strip_append sound.authority_ne_nil stops ends with
    ⟨kept, strip_eq, stopsKept, fromBehind⟩
  have split_strip := sound.split_append stopsKept fun char member =>
    quiet char (fromBehind char member)
  rw [← strip_eq] at split_strip
  -- Host and port are read off the authority, which is the same.
  let absolute : Absolute := {
    url := {
      scheme := url.scheme
      authority := url.authority
      path := before '?' (before '#' kept)
      query := after '?' (before '#' kept)
      fragment := after '#' kept }
    host, port, scheme_ne_nil
    hostname?_eq := hostname
    port?_eq := port_eq }
  exact ⟨absolute, Absolute.parse_of_split notBlank split_strip, rfl, rfl⟩

end Behind

theorem Sound.exists_parse_written (sound : url.Sound) {host : Text} {port : Option Nat}
    (hostname : url.hostname? = some host) (port_eq : url.port? = .ok port)
    (ends : url.path ++ marked '?' url.query = [] →
      ∀ char ∈ url.authority.getLast?, isBlank char = false) :
    ∃ absolute, Absolute.parse url.written = .ok absolute ∧ absolute.host = host ∧
      absolute.port = port := by
  rw [written, List.append_assoc]
  exact sound.exists_parse_append hostname port_eq sound.stops_written sound.quiet_written ends

/-- A text without blanks whose authority is plain stands for a complete URL. -/
theorem Absolute.complete_of_parse {absolute : Absolute}
    (parsed : Absolute.parse text = .ok absolute) (solid : ∀ char ∈ text, isBlank char = false)
    (ascii : ∀ char ∈ absolute.url.authority, isAscii char = true)
    (noBrackets : '[' ∉ absolute.url.authority ∧ ']' ∉ absolute.url.authority) :
    absolute.url.Complete := by
  rcases Absolute.parse_eq_ok parsed with ⟨-, split_text⟩
  rw [strip_of_solid solid] at split_text
  have authority_ne_nil := authority_ne_nil_of_hostname absolute.hostname?_eq
  exact ⟨plain_of_split split_text absolute.scheme_ne_nil authority_ne_nil solid ascii noBrackets,
    ⟨absolute.host, absolute.hostname?_eq⟩, ⟨absolute.port, absolute.port?_eq⟩⟩

theorem Plain.isBlankText_written (plain : url.Plain) : isBlankText url.written = false := by
  rcases (isScheme_iff.mp plain.scheme).1 with ⟨head, rest, shape, letter⟩
  have solid := plain.isBlank_of_mem_written (by simp [written, shape] : head ∈ url.written)
  rw [isBlankText, List.all_eq_false]
  exact ⟨head, by simp [written, shape], by simp [solid]⟩

/-- A complete URL is read back from its written form, without the fragment. -/
theorem Complete.parse_written (complete : url.Complete) :
    ∃ absolute, Absolute.parse url.written = .ok absolute ∧
      absolute.url = { url with fragment := [] } := by
  rcases complete.hostname with ⟨host, hostname_eq⟩
  rcases complete.port with ⟨port, port_eq⟩
  have scheme_ne_nil := ne_nil_of_isScheme complete.scheme
  refine ⟨⟨{ url with fragment := [] }, host, port, scheme_ne_nil, hostname_eq, port_eq⟩, ?_, rfl⟩
  apply Absolute.parse_of_split complete.isBlankText_written
  rw [strip_of_solid fun char => complete.isBlank_of_mem_written]
  exact complete.split_written

/-! ## The `https` form -/

theorem joinedHierarchy_eq (url : Url) (authority_ne_nil : url.authority ≠ [])
    (path_start : ∀ char ∈ url.path.head?, char = '/') :
    url.joinedHierarchy = '/' :: '/' :: (url.authority ++ url.path) := by
  cases path : url.path with
  | nil => simp [joinedHierarchy, authority_ne_nil, path]
  | cons head rest =>
      have isSlash := path_start head (by simp [path])
      simp [joinedHierarchy, authority_ne_nil, path, isSlash]

/-- Parts with a scheme and an authority are joined as they are written, with the fragment. -/
theorem join_eq (url : Url) (isScheme_scheme : isScheme url.scheme = true)
    (authority_ne_nil : url.authority ≠ []) (path_start : ∀ char ∈ url.path.head?, char = '/') :
    join url = url.written ++ marked '#' url.fragment := by
  rw [join, joinedHierarchy_eq url authority_ne_nil path_start]
  simp [written, ne_nil_of_isScheme isScheme_scheme]

theorem Plain.join_eq_written (plain : url.Plain) :
    join { url with fragment := [] } = url.written := by
  rw [join_eq { url with fragment := [] } plain.scheme plain.authority_ne_nil plain.path_start]
  exact List.append_nil url.written

/-- An `http` URL of complete parts in its `https` form. -/
def secured (url : Url) (host : Text) (port : Option Nat) : Url where
  scheme := "https".toList
  authority := authorityOf host port
  path := url.path
  query := url.query

/-- The secured form of a complete URL is complete. -/
theorem Complete.secured (complete : url.Complete) {host : Text} {port : Option Nat}
    (hostname : url.hostname? = some host) (port_eq : url.port? = .ok port) :
    (url.secured host port).Complete := by
  rw [hostname?] at hostname
  split at hostname
  · cases hostname
  · rename_i nonempty
    cases hostname
    have plainRaw := isHostChar_of_mem_rawHost complete.authority
    have plainHost := isHostChar_of_mem_lowerHost plainRaw
    have host_ne_nil := lowerHost_ne_nil (by simpa using nonempty)
    have isScheme_https : isScheme "https".toList = true := by decide
    have small_https : lowerAscii "https".toList = "https".toList := by decide
    refine ⟨⟨isScheme_https, small_https, ?_, isPlainChar_of_mem_authorityOf plainHost,
      complete.path_start, complete.path_noQuery, complete.path_noFragment,
      complete.query_noFragment, complete.path_solid, complete.query_solid⟩, ?_, ?_⟩
    · exact authorityOf_ne_nil host_ne_nil plainHost
    · refine ⟨lowerHost (lowerHost (rawHost url.authority)), ?_⟩
      rw [hostname?, Url.secured, rawHost_authorityOf plainHost]
      simp [host_ne_nil]
    · refine ⟨port, ?_⟩
      rw [port?, Url.secured, rawPort_authorityOf plainHost]
      cases port with
      | none => rfl
      | some number =>
          simp [ofNat_ne_nil, readPort_ofNat (le_of_port? port_eq), Except.map]

/-- The `https` form of a complete URL is complete, and nothing but `http` is changed. -/
theorem Complete.upgradeToHttps_written (complete : url.Complete) :
    ∃ upgraded : Url, upgradeToHttps url.written = .ok upgraded.written ∧ upgraded.Complete ∧
      upgraded.query = url.query ∧ upgraded.scheme ≠ "http".toList ∧
      (url.scheme ≠ "http".toList → upgraded = url) := by
  rcases complete.parse_written with ⟨absolute, parsed, url_eq⟩
  rw [upgradeToHttps, parsed]
  by_cases plainHttp : url.scheme = "http".toList
  · have hostname := absolute.hostname?_eq
    have port := absolute.port?_eq
    rw [url_eq] at hostname port
    have secured := complete.secured hostname port
    have notHttp : "https".toList ≠ "http".toList := by decide
    refine ⟨url.secured absolute.host absolute.port, ?_, secured, rfl, notHttp, ?_⟩
    · simp only [url_eq, if_pos plainHttp, Except.ok.injEq]
      exact secured.join_eq_written
    · intro notHttp
      exact absurd plainHttp notHttp
  · refine ⟨url, ?_, complete, rfl, plainHttp, fun _ => rfl⟩
    simp only [url_eq, if_neg plainHttp]

end Url

end SignOnGate
