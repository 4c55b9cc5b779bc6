import SignOnGate.Proofs.ServiceUrl.FieldValue

/-!
# Coming back with a ticket

The login service sends the client back to the service URL with a ticket in its query. For a request
URL without blanks, the service URL of that visit is the one that was sent out: parsing, leaving out
the ticket and writing the parts again changes nothing any more after the first time.
-/

namespace SignOnGate

open Text Url

namespace Url

variable {text : Text} {url : Url} {absolute : Absolute}

/-- An absolute URL with another query and without a fragment. -/
def Absolute.withQuery (absolute : Absolute) (query : Text) : Absolute where
  url := { absolute.url with query, fragment := [] }
  host := absolute.host
  port := absolute.port
  scheme_ne_nil := absolute.scheme_ne_nil
  hostname?_eq := absolute.hostname?_eq
  port?_eq := absolute.port?_eq

theorem Absolute.parse_of_solid (solid : ∀ char ∈ text, isBlank char = false)
    (split_text : split text = .ok absolute.url) : parse text = .ok absolute := by
  apply Absolute.parse_of_split
  · cases text with
    | nil =>
        exact absurd (congrArg Url.scheme (Except.ok.inj split_text)).symm absolute.scheme_ne_nil
    | cons head rest => simp [isBlankText, solid head List.mem_cons_self]
  · rw [strip_of_solid solid]
    exact split_text

/-- The text of a URL in front of its query. -/
def front (url : Url) : Text :=
  url.scheme ++ "://".toList ++ url.authority ++ url.path

/-- Neither a query nor a fragment begins in front of the query. -/
theorem Sound.free_front (sound : url.Sound) : '?' ∉ url.front ∧ '#' ∉ url.front := by
  have free (mark : Char) (noSchemeChar : isSchemeChar mark = false)
      (ends : endsAuthority mark = true) (notSlash : mark ∉ "://".toList)
      (noPath : mark ∉ url.path) : mark ∉ url.front := by
    intro member
    simp only [front, List.mem_append] at member
    rcases member with ((scheme | slashes) | authority) | path
    · rw [(isScheme_iff.mp sound.scheme).2 mark scheme] at noSchemeChar
      cases noSchemeChar
    · exact notSlash slashes
    · rw [sound.authority_inside mark authority] at ends
      cases ends
    · exact noPath path
  constructor
  · exact free '?' (by decide) (by decide) (by decide) sound.path_noQuery
  · exact free '#' (by decide) (by decide) (by decide) sound.path_noFragment

theorem Sound.mem_written_iff (sound : url.Sound) : '?' ∈ url.written ↔ url.query ≠ [] := by
  have noQuery : '?' ∉ url.front := sound.free_front.1
  have whole : url.written = url.front ++ marked '?' url.query := rfl
  cases query : url.query <;> simp [whole, query, noQuery, marked]

end Url

namespace ServiceUrl

variable {text artifact ticket : Text} {url : Url} {absolute : Absolute}

/-- A service URL with a ticket in its query, as the client is sent back to it. -/
def withTicket (serviceUrl artifact ticket : Text) : Text :=
  serviceUrl ++ (if '?' ∈ serviceUrl then '&' else '?') :: (artifact ++ '=' :: ticket)

/-- A ticket is split off with the query, and leaving it out brings the query back. -/
theorem split_withTicket (sound : url.Sound) (noFragment : url.fragment = [])
    (isField : FieldFrame.IsField artifact ticket)
    (quiet : ∀ char ∈ ticket, isInnerNoise char = false) :
    ∃ query, split (withTicket url.written artifact ticket) = .ok { url with query } ∧
      Query.without artifact query = Query.without artifact url.query := by
  have split_written : split url.written = .ok url := by
    rw [sound.split_written, ← noFragment]
  have noEquals : '=' ∉ artifact := isField.not_mem_name (by decide)
  have nameFree : '&' ∉ artifact := isField.not_mem_name (by decide)
  have fieldNoFragment : '#' ∉ artifact ++ '=' :: ticket := by
    simp [isField.not_mem_name, isField.value_noFragment, Percent.isUnreserved]
  have quietField : ∀ char ∈ artifact ++ '=' :: ticket, isInnerNoise char = false := by
    intro char member
    rcases List.mem_append.mp member with inName | behind
    · exact isInnerNoise_of_isUnreserved (isField.plain char inName)
    · rcases List.mem_cons.mp behind with rfl | inTicket
      · decide
      · exact quiet char inTicket
  rcases sound.free_front with ⟨frontNoQuery, frontNoFragment⟩
  have whole : url.written = url.front ++ marked '?' url.query := rfl
  have noTail : ∀ char ∈ ([] : Text).head?, char = '#' := by simp
  cases shape : url.query with
  | nil =>
      have noMark : '?' ∉ url.written := by simp [sound.mem_written_iff, shape]
      have front_eq : url.written = url.front ++ [] := by simp [whole, shape, marked]
      refine ⟨artifact ++ '=' :: ticket, ?_, ?_⟩
      · rw [front_eq] at split_written
        have added := (split_first_query frontNoQuery frontNoFragment noTail fieldNoFragment
          quietField split_written).1
        rw [withTicket, if_neg noMark, front_eq]
        simpa using added
      · exact Query.without_own nameFree isField.value_noField noEquals
  | cons head rest =>
      have mark : '?' ∈ url.written := by simp [sound.mem_written_iff, shape]
      have front_eq : url.written = url.front ++ '?' :: (url.query ++ []) := by
        simp [whole, shape, marked]
      refine ⟨url.query ++ '&' :: (artifact ++ '=' :: ticket), ?_, ?_⟩
      · rw [front_eq] at split_written
        have added := split_more_query frontNoQuery frontNoFragment sound.query_noFragment noTail
          fieldNoFragment quietField split_written
        rw [withTicket, if_pos mark, front_eq]
        simpa using added
      · rw [Query.without_append_own nameFree isField.value_noField noEquals, shape]

/-- Adding a ticket without blanks brings in no blanks. -/
theorem isBlank_of_mem_withTicket (solid : ∀ char ∈ text, isBlank char = false)
    (isField : FieldFrame.IsField artifact ticket)
    (solidTicket : ∀ char ∈ ticket, isBlank char = false) :
    ∀ char ∈ withTicket text artifact ticket, isBlank char = false := by
  intro char member
  rcases List.mem_append.mp member with inText | behind
  · exact solid char inText
  · rcases List.mem_cons.mp behind with rfl | field
    · split <;> rfl
    · rcases List.mem_append.mp field with inName | value
      · exact Percent.isBlank_of_isUnreserved (isField.plain char inName)
      · rcases List.mem_cons.mp value with rfl | inTicket
        · rfl
        · exact solidTicket char inTicket

theorem isBlank_of_mem_serviceUrl (parsed : Absolute.parse text = .ok absolute)
    (solid : ∀ char ∈ text, isBlank char = false) (artifact : Text) :
    ∀ char ∈ (absolute.url.withoutField artifact).written, isBlank char = false := by
  have split_text := (Absolute.parse_eq_ok parsed).2
  rw [strip_of_solid solid] at split_text
  have authority_ne_nil := authority_ne_nil_of_hostname absolute.hostname?_eq
  rcases sound_of_split split_text absolute.scheme_ne_nil authority_ne_nil with ⟨sound, fromText⟩
  intro char member
  refine isBlank_of_mem_written (sound.withoutField artifact).scheme ?_ member
  intro char member
  rcases List.mem_append.mp member with front | query
  · exact solid char (fromText char (List.mem_append_left _ front))
  · rcases Query.mem_without query with rfl | inQuery
    · rfl
    · exact solid char (fromText char (List.mem_append_right _ inQuery))

/-- A text without blanks has the service URL of any parts that it shares all but tickets with. -/
theorem ofText_of_split {visited query : Text} (solid : ∀ char ∈ visited, isBlank char = false)
    (split_visited : split visited = .ok { absolute.url.withoutField artifact with query })
    (same : Query.without artifact query = Query.without artifact absolute.url.query) :
    ofText visited artifact none = .ok (absolute.url.withoutField artifact).written := by
  have parsed : Absolute.parse visited = .ok (absolute.withQuery query) :=
    Absolute.parse_of_solid solid split_visited
  have settled : (absolute.withQuery query).url.withoutField artifact =
      absolute.url.withoutField artifact := by
    simp [Absolute.withQuery, Url.withoutField, same]
  rw [ofText_of_parse parsed, settled]

/--
For a request URL without blanks, the service URL is its own service URL, and it is also the one of
a visit that brings a ticket to it.
-/
theorem callback_has_same_service_url (parsed : Absolute.parse text = .ok absolute)
    (solid : ∀ char ∈ text, isBlank char = false) (protocol : Protocol) :
    ∃ serviceUrl, ofText text protocol.artifactParameter none = .ok serviceUrl ∧
      ofText serviceUrl protocol.artifactParameter none = .ok serviceUrl ∧
      ∀ ticket, '&' ∉ ticket → '#' ∉ ticket → (∀ char ∈ ticket, isBlank char = false) →
        ofText (withTicket serviceUrl protocol.artifactParameter ticket)
          protocol.artifactParameter none = .ok serviceUrl := by
  have plain := protocol.isUnreserved_of_mem_artifactParameter
  generalize protocol.artifactParameter = artifact at plain ⊢
  have sound : (absolute.url.withoutField artifact).Sound :=
    (absolute.sound (Absolute.parse_eq_ok parsed).2).withoutField artifact
  have solidServed := isBlank_of_mem_serviceUrl parsed solid artifact
  refine ⟨_, ofText_of_parse parsed artifact, ?_, ?_⟩
  · apply ofText_of_split solidServed sound.split_written
    exact Query.without_without artifact absolute.url.query
  · intro ticket noField noFragment solidTicket
    have isField : FieldFrame.IsField artifact ticket := ⟨plain, noField, noFragment⟩
    have quiet : ∀ char ∈ ticket, isInnerNoise char = false := fun char member =>
      isInnerNoise_of_solid (solidTicket char member)
    rcases split_withTicket sound rfl isField quiet with ⟨query, split_ticket, same⟩
    apply ofText_of_split (isBlank_of_mem_withTicket solidServed isField solidTicket) split_ticket
    rw [same]
    exact Query.without_without artifact absolute.url.query

/-- The parts of `HTTP://me@App.example.org:080?&a=1&&ticket=old&b=?/c#top`. -/
def busyRequest : Absolute where
  url := {
    scheme := "http".toList
    authority := "me@App.example.org:080".toList
    query := "&a=1&&ticket=old&b=?/c".toList
    fragment := "top".toList }
  host := "app.example.org".toList
  port := some 80
  scheme_ne_nil := by decide
  hostname?_eq := by decide +kernel
  port?_eq := by decide +kernel

/-- A ticket that looks like more query does not get into the service URL. -/
theorem callback_has_same_service_url_for_busy_request :
    ofText "HTTP://me@App.example.org:080?&a=1&&ticket=old&b=?/c#top".toList "ticket".toList none =
        .ok "http://me@App.example.org:080?a=1&b=?/c".toList ∧
      ofText "http://me@App.example.org:080?a=1&b=?/c&ticket=ST-1=?/".toList "ticket".toList none =
        .ok "http://me@App.example.org:080?a=1&b=?/c".toList := by
  have parsed : Absolute.parse "HTTP://me@App.example.org:080?&a=1&&ticket=old&b=?/c#top".toList =
      .ok busyRequest :=
    Absolute.parse_of_split (by decide) (by decide +kernel)
  rcases callback_has_same_service_url parsed (solid_of_all (by decide +kernel)) .cas2 with
    ⟨serviceUrl, served, -, back⟩
  have known : serviceUrl = "http://me@App.example.org:080?a=1&b=?/c".toList := by
    rw [ofText_of_parse parsed] at served
    rw [← Except.ok.inj served]
    decide +kernel
  subst known
  have again := back "ST-1=?/".toList (by decide) (by decide) (solid_of_all (by decide +kernel))
  have visited : withTicket "http://me@App.example.org:080?a=1&b=?/c".toList
      Protocol.cas2.artifactParameter "ST-1=?/".toList =
        "http://me@App.example.org:080?a=1&b=?/c&ticket=ST-1=?/".toList := by
    decide +kernel
  rw [visited] at again
  exact ⟨served, again⟩

end ServiceUrl

end SignOnGate
