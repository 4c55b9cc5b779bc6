import SignOnGate.Proofs.ServiceUrl.FieldValue

/-!
# Tickets in service URLs

The service URL leaves out the fields that are written with the name of the ticket, while a request
reads its ticket from the decoded query. The two agree on every field but one kind: a field whose
name stands for the ticket without being written like it, such as `%74icket=ST-1`, is a ticket to
the request and stays in the service URL. So a ticket survives exactly where it comes in such a
disguise. Nothing but tickets is left out: every other part of the URL and every other entry of the
query is kept.
-/

namespace SignOnGate

namespace ServiceUrl

open Text

/-- A field whose name stands for the given one and is written in another way. -/
def isDisguised (name field : Text) : Bool :=
  before '=' field != name && Query.decodePart (before '=' field) == name

variable {text name query : Text} {absolute : Url.Absolute}

theorem isDisguised_iff {field : Text} : isDisguised name field = true ↔
    before '=' field ≠ name ∧ Query.decodePart (before '=' field) = name := by
  simp [isDisguised]

/-- What is left of a name in a query are the disguised fields. -/
theorem find?_parse_without (name query : Text) :
    ((Query.parse (Query.without name query)).find? (·.1 = name)).map Prod.snd =
      ((Query.fields query).find? (isDisguised name)).map
        fun field => Query.decodePart (after '=' field) := by
  have kept : (fun field => decide (decide (before '=' field ≠ name) = true ∧
      decide ((Query.decodeField field).1 = name) = true)) = isDisguised name := by
    funext field
    rw [Bool.eq_iff_iff, isDisguised_iff, decide_eq_true_iff, decide_eq_true_iff,
      decide_eq_true_iff]
    rfl
  rw [Query.parse, Query.fields_without, List.find?_map, List.find?_filter, Option.map_map]
  simp only [Function.comp_apply, kept]
  rfl

theorem find?_isDisguised_eq_none_iff :
    (Query.fields query).find? (isDisguised name) = none ↔
      ∀ field ∈ Query.fields query,
        Query.decodePart (before '=' field) = name → before '=' field = name := by
  simp only [List.find?_eq_none, isDisguised_iff]
  refine forall₂_congr fun field _ => ?_
  tauto

/-- The service URL is split into the parts of the request URL, but for the ticket. -/
theorem split_ofText (parsed : Url.Absolute.parse text = .ok absolute) (artifact : Text) :
    ∃ serviceUrl parts, ofText text artifact none = .ok serviceUrl ∧
      Url.split serviceUrl = .ok parts ∧
      parts.query = Query.without artifact absolute.url.query := by
  have sound := absolute.sound (Url.Absolute.parse_eq_ok parsed).2
  exact ⟨_, _, ofText_of_parse parsed artifact, (sound.withoutField artifact).split_written, rfl⟩

/--
A request to the service URL brings the value of the first disguised field of the query, and brings
no ticket exactly when every field whose name stands for the ticket is written with that name.
-/
theorem ticket_survives_only_in_disguise (parsed : Url.Absolute.parse text = .ok absolute)
    (protocol : Protocol) (headers : List (Text × Text)) :
    ∃ serviceUrl, ofText text protocol.artifactParameter none = .ok serviceUrl ∧
      (Request.ofFields serviceUrl headers none).parameter? protocol.artifactParameter =
        ((Query.fields absolute.url.query).find? (isDisguised protocol.artifactParameter)).map
          (fun field => Query.decodePart (after '=' field)) ∧
      ((Request.ofFields serviceUrl headers none).parameter? protocol.artifactParameter = none ↔
        ∀ field ∈ Query.fields absolute.url.query,
          Query.decodePart (before '=' field) = protocol.artifactParameter →
            before '=' field = protocol.artifactParameter) := by
  rcases split_ofText parsed protocol.artifactParameter with
    ⟨serviceUrl, parts, service_eq, split_service, query_eq⟩
  have survives := Request.parameter?_ofFields split_service headers protocol.artifactParameter
  rw [query_eq, find?_parse_without] at survives
  refine ⟨serviceUrl, service_eq, survives, ?_⟩
  rw [survives, Option.map_eq_none_iff]
  exact find?_isDisguised_eq_none_iff

/-- The URL `http://app.example.org/home?%74icket=ST-1`, where the name of the ticket is escaped. -/
def escapedTicket : Url.Absolute where
  url := {
    scheme := "http".toList
    authority := "app.example.org".toList
    path := "/home".toList
    query := "%74icket=ST-1".toList }
  host := "app.example.org".toList
  port := none
  scheme_ne_nil := by decide
  hostname?_eq := by decide +kernel
  port?_eq := by decide +kernel

/-- The first letter of the name is escaped, and the ticket stays in the service URL. -/
theorem escaped_ticket_survives :
    ∃ serviceUrl, ofText escapedTicket.url.written Protocol.cas2.artifactParameter none =
        .ok serviceUrl ∧
      (Request.ofFields serviceUrl [] none).parameter? Protocol.cas2.artifactParameter =
        some "ST-1".toList := by
  have parsed : Url.Absolute.parse escapedTicket.url.written = .ok escapedTicket :=
    Url.Absolute.parse_of_split (by decide) (by decide +kernel)
  rcases ticket_survives_only_in_disguise parsed .cas2 [] with ⟨serviceUrl, service_eq, survives, -⟩
  refine ⟨serviceUrl, service_eq, ?_⟩
  rw [survives]
  decide +kernel

/-! ## What is kept -/

/--
The service URL is split into the scheme, the authority and the path of the request URL, without a
fragment, and the entries of its query that are no tickets are those of the request, in their order.
-/
theorem service_url_loses_only_the_ticket (parsed : Url.Absolute.parse text = .ok absolute)
    (protocol : Protocol) :
    ∃ serviceUrl parts, ofText text protocol.artifactParameter none = .ok serviceUrl ∧
      Url.split serviceUrl = .ok parts ∧ parts.scheme = absolute.url.scheme ∧
      parts.authority = absolute.url.authority ∧ parts.path = absolute.url.path ∧
      parts.fragment = [] ∧
      (Query.parse parts.query).filter (·.1 ≠ protocol.artifactParameter) =
        (Query.parse absolute.url.query).filter (·.1 ≠ protocol.artifactParameter) := by
  have sound := absolute.sound (Url.Absolute.parse_eq_ok parsed).2
  have split_service := (sound.withoutField protocol.artifactParameter).split_written
  refine ⟨_, _, ofText_of_parse parsed _, split_service, rfl, rfl, rfl, rfl, ?_⟩
  exact Query.filter_parse_without protocol.isUnreserved_of_mem_artifactParameter absolute.url.query

/-- A URL with tickets, a ticket in disguise, repeated and empty fields, and a fragment. -/
def crowdedText : Text :=
  "HTTP://me@App.example.org:?&a=1&&SAMLart=AA=&a=+%2b&SAMLart&SAML%61rt=x&SAMLarts=2&b#?top".toList

/-- The parts of the crowded URL. -/
def crowdedRequest : Url.Absolute where
  url := {
    scheme := "http".toList
    authority := "me@App.example.org:".toList
    query := "&a=1&&SAMLart=AA=&a=+%2b&SAMLart&SAML%61rt=x&SAMLarts=2&b".toList
    fragment := "?top".toList }
  host := "app.example.org".toList
  port := none
  scheme_ne_nil := by decide
  hostname?_eq := by decide +kernel
  port?_eq := by decide +kernel

/-- Entries whose names only begin like that of the ticket, repeated ones and empty ones stay. -/
theorem service_url_loses_only_the_ticket_of_crowded_request :
    ∃ serviceUrl parts,
      ofText crowdedText Protocol.saml11.artifactParameter none = .ok serviceUrl ∧
      Url.split serviceUrl = .ok parts ∧ parts.authority = "me@App.example.org:".toList ∧
      parts.path = [] ∧
      (Query.parse parts.query).filter (·.1 ≠ Protocol.saml11.artifactParameter) =
        [("a", "1"), ("a", " +"), ("SAMLarts", "2"), ("b", "")].map
          fun entry => (entry.1.toList, entry.2.toList) := by
  have parsed : Url.Absolute.parse crowdedText = .ok crowdedRequest :=
    Url.Absolute.parse_of_split (by decide +kernel) (by decide +kernel)
  rcases service_url_loses_only_the_ticket parsed .saml11 with
    ⟨serviceUrl, parts, service_eq, split_service, -, authority_eq, path_eq, -, entries⟩
  refine ⟨serviceUrl, parts, service_eq, split_service, authority_eq, path_eq, ?_⟩
  rw [entries]
  decide +kernel

end ServiceUrl

end SignOnGate
