import SignOnGate.Proofs.Gate.Course
import SignOnGate.Proofs.Gate.Service
import SignOnGate.Proofs.Gateway.Awaits
import SignOnGate.Proofs.Gateway.Stored

/-!
# Journeys of a client through a silent login

A client visits a URL and goes wherever it is sent. The first attempt is kept for the URL as it was
asked for, and the client comes back to the `https` form of it. That form is settled: the service
URL of the second visit is the URL itself, and so is the URL of a third visit. Hence the attempt of
the second visit, at the latest, is recognised.
-/

namespace SignOnGate

/-- The first field of a name has a blank value, if there is such a field at all. -/
def Query.Lacks (name query : Text) : Prop :=
  ∀ value, (OrderedMap.ofFirst (Query.parse query)).get? name = some value →
    Text.isBlankText value = true

/-- A visit of a client that brings nothing but the URL: its request for any URL. -/
structure PlainVisit where
  request : Text → Request
  fresh : Fresh
  url_request : ∀ url, (request url).url = .ok url
  parameters_request : ∀ url, (request url).parameters = Request.parametersOf url
  header_request : ∀ url, (request url).header? "Authorization".toList = none

namespace Gate

open Gateway

/-- A gate that logs in silently and is configured with nothing but its login URL. -/
structure Plain (gate : Gate) : Prop where
  silent : gate.options.gateway = true
  login : ∃ text, LoginUrl.parse text = .ok gate.login
  resolver : gate.options.resolver = .standard
  exclusion : gate.options.exclusion = none
  service : gate.options.service = none
  serverName : gate.options.serverName = none

/-- The parameter that brings the ticket. -/
def artifact (gate : Gate) : Text :=
  gate.options.protocol.artifactParameter

/-- The answers to a client that goes where it is sent, as long as it is sent anywhere. -/
def browse (gate : Gate) : List PlainVisit → Text → Memory → List (Except Fault Decision)
  | [], _, _ => []
  | visit :: later, url, memory =>
      let outcome := gate.evaluate (visit.request url) visit.fresh memory
      match outcome.result with
      | .ok (.needsRedirect redirect) =>
          outcome.result :: browse gate later redirect.serviceUrl outcome.memory
      | _ => [outcome.result]

variable {gate : Gate} {visit : PlainVisit} {url : Text} {served : Url}

/-! ## One visit -/

theorem serviceUrl_of_ofText (plain : gate.Plain) {serviceUrl : Text}
    (served : ServiceUrl.ofText url gate.artifact none = .ok serviceUrl) :
    gate.serviceUrl (visit.request url) = .ok serviceUrl := by
  have notCounted : ServiceUrl.counted? gate.options.service = none := by
    rw [plain.service]
    rfl
  rw [artifact] at served
  rw [serviceUrl_of_not_counted notCounted (visit.url_request url), plain.serverName, served]
  rfl

theorem hasTicket_eq_false {parts : Url} (split_url : Url.split url = .ok parts)
    (lacks : Query.Lacks gate.artifact parts.query) :
    gate.hasTicket (visit.request url) = false := by
  rw [hasTicket, Request.parameter?, visit.parameters_request, Request.parametersOf, split_url]
  split
  · rfl
  · rename_i ticket found
    simp [lacks ticket found]

theorem bearerToken?_request (visit : PlainVisit) (url : Text) :
    bearerToken? (visit.request url) = none := by
  rw [bearerToken?, visit.header_request]

theorem consults_of_plain (plain : gate.Plain) (request : Request) {memory : Memory}
    (noAssertion : gate.hasAssertion memory = false) : gate.Consults request memory :=
  ⟨by rw [excludedUrl?, plain.exclusion], noAssertion⟩

theorem hasAssertion_congr {memory other : Memory}
    (same : other.sessionValue? gate.options.assertionKey =
      memory.sessionValue? gate.options.assertionKey) :
    gate.hasAssertion other = gate.hasAssertion memory := by
  rw [hasAssertion, hasAssertion, same]

section Visit

variable (plain : gate.Plain) {memory : Memory} {pending : Set Text}
  (noAssertion : gate.hasAssertion memory = false)
  (stored : Attempts.Stored (memory.sessionValue? attemptsKey) pending)
  (service : gate.serviceUrl (visit.request url) = .ok served.written)
  (noTicket : gate.hasTicket (visit.request url) = false)

include plain noAssertion stored service noTicket

/-- A visit whose attempt is pending is recognised. -/
theorem result_evaluate_of_pending (member : key served.written ∈ pending) :
    (gate.evaluate (visit.request url) visit.fresh memory).result =
      .ok (.gatewayed served.written) := by
  rcases Resolver.exists_consume (Resolver.builtIn_session attemptsKey) (visit.request url)
    served.written memory with ⟨returning, consumed, consume, -⟩
  rcases Resolver.stored_of_consume stored consume with ⟨returning_iff, -⟩
  rw [returning_iff.mpr member] at consume
  have resolver : gate.options.resolver = .session attemptsKey := plain.resolver
  rw [← resolver] at consume
  rw [(Course.gatewayed (consults_of_plain plain _ noAssertion) plain.silent served.written service
    consumed consume noTicket).evaluate_eq]

/-- A visit whose attempt is not pending is sent away, and its attempt is pending afterwards. -/
theorem evaluate_of_not_pending (settled : served.Complete) (present : memory.session ≠ none)
    (notMember : key served.written ∉ pending) :
    ∃ redirect left,
      (gate.evaluate (visit.request url) visit.fresh memory).result =
        .ok (.needsRedirect redirect) ∧
      (gate.evaluate (visit.request url) visit.fresh memory).memory = left ∧
      upgradeToHttps served.written = .ok redirect.serviceUrl ∧
      left.session ≠ none ∧
      Attempts.Stored (left.sessionValue? attemptsKey) (insert (key served.written) pending) ∧
      ∀ other, other ≠ attemptsKey → left.sessionValue? other = memory.sessionValue? other := by
  rcases Resolver.exists_consume (Resolver.builtIn_session attemptsKey) (visit.request url)
    served.written memory with ⟨returning, consumed, consume, -⟩
  rcases Resolver.stored_of_consume stored consume with ⟨returning_iff, storedConsumed⟩
  have notReturning : returning = false := by
    rw [← Bool.not_eq_true, returning_iff]
    exact notMember
  subst notReturning
  rw [Set.sdiff_singleton_eq_self notMember] at storedConsumed
  have presentConsumed : consumed.session ≠ none := by
    have absent_iff := Resolver.session_consume_eq_none_iff attemptsKey (visit.request url)
      served.written memory
    rw [consume] at absent_iff
    exact fun absent => present (absent_iff.mp absent)
  rcases Resolver.exists_remember_of_stored storedConsumed presentConsumed (visit.request url)
    served.written visit.fresh with ⟨left, remember, presentLeft, storedLeft⟩
  rcases plain.login with ⟨text, parsed⟩
  rcases LoginRedirect.exists_build parsed gate.options.protocol.serviceParameter settled
    gate.flags with ⟨redirect, built, upgrade⟩
  have unchanged (other : Text) (different : other ≠ attemptsKey) :
      left.sessionValue? other = memory.sessionValue? other := by
    have kept := @Resolver.sessionValue?_remember_of_ne attemptsKey (visit.request url) visit.fresh
      consumed served.written other different
    have keptBefore := @Resolver.sessionValue?_consume_of_ne attemptsKey (visit.request url) memory
      served.written other different
    rw [remember] at kept
    rw [consume] at keptBefore
    exact kept.trans keptBefore
  have resolver : gate.options.resolver = .session attemptsKey := plain.resolver
  rw [← resolver] at consume remember
  rw [(Course.silentlySent (consults_of_plain plain _ noAssertion) plain.silent served.written
    service consumed consume ⟨noTicket, bearerToken?_request visit url⟩ served.written left
    remember).evaluate_eq]
  refine ⟨redirect, left, ?_, rfl, upgrade, presentLeft, storedLeft, unchanged⟩
  rw [redirectWith, built]

end Visit

/-- A settled URL that brings no ticket is its own service URL. -/
theorem visit_of_settled (plain : gate.Plain) (settled : served.Settled gate.artifact)
    (lacks : Query.Lacks gate.artifact served.query) (visit : PlainVisit) :
    gate.serviceUrl (visit.request served.written) = .ok served.written ∧
      gate.hasTicket (visit.request served.written) = false :=
  ⟨serviceUrl_of_ofText plain (ServiceUrl.ofText_written settled),
    hasTicket_eq_false settled.split_written lacks⟩

/-! ## The journey -/

/-- The client is sent away once or twice, and then its return is recognised. -/
def EndsRecognised (answers : List (Except Fault Decision)) : Prop :=
  (∃ sent returnUrl, answers = [.ok (.needsRedirect sent), .ok (.gatewayed returnUrl)]) ∨
  ∃ sent again returnUrl,
    answers = [.ok (.needsRedirect sent), .ok (.needsRedirect again), .ok (.gatewayed returnUrl)]

theorem browse_of_redirect {later : List PlainVisit} {memory : Memory} {redirect : LoginRedirect}
    (sent : (gate.evaluate (visit.request url) visit.fresh memory).result =
      .ok (.needsRedirect redirect)) :
    gate.browse (visit :: later) url memory =
      .ok (.needsRedirect redirect) :: gate.browse later redirect.serviceUrl
        (gate.evaluate (visit.request url) visit.fresh memory).memory := by
  simp only [browse, sent]

theorem browse_of_gatewayed {later : List PlainVisit} {memory : Memory} {returnUrl : Text}
    (recognised : (gate.evaluate (visit.request url) visit.fresh memory).result =
      .ok (.gatewayed returnUrl)) :
    gate.browse (visit :: later) url memory = [.ok (.gatewayed returnUrl)] := by
  simp only [browse, recognised]

theorem browse_of_authenticated {later : List PlainVisit} {memory : Memory}
    (recognised : (gate.evaluate (visit.request url) visit.fresh memory).result =
      .ok .authenticated) :
    gate.browse (visit :: later) url memory = [.ok .authenticated] := by
  simp only [browse, recognised]

theorem hasAssertion_of_stored {memory : Memory} {pending : Set Text}
    (sameKey : gate.options.assertionKey = attemptsKey)
    (stored : Attempts.Stored (memory.sessionValue? attemptsKey) pending)
    (nonempty : pending.Nonempty) : gate.hasAssertion memory = true := by
  rw [hasAssertion, sameKey]
  generalize memory.sessionValue? attemptsKey = value at stored
  cases stored with
  | absent => exact absurd rfl nonempty.ne_empty
  | present attempts pending nonempty keys marks => rfl

/-- From a settled URL on, the client is sent away at most once more. -/
theorem browse_of_settled (plain : gate.Plain)
    (differentKeys : gate.options.assertionKey ≠ attemptsKey)
    (settled : served.Settled gate.artifact) (lacks : Query.Lacks gate.artifact served.query)
    (upgraded : upgradeToHttps served.written = .ok served.written) {memory : Memory}
    {pending : Set Text} (noAssertion : gate.hasAssertion memory = false)
    (present : memory.session ≠ none)
    (stored : Attempts.Stored (memory.sessionValue? attemptsKey) pending)
    (second third : PlainVisit) (later : List PlainVisit) :
    (∃ returnUrl, gate.browse (second :: third :: later) served.written memory =
      [.ok (.gatewayed returnUrl)]) ∨
    ∃ again returnUrl, gate.browse (second :: third :: later) served.written memory =
      [.ok (.needsRedirect again), .ok (.gatewayed returnUrl)] := by
  rcases visit_of_settled plain settled lacks second with ⟨service, noTicket⟩
  by_cases member : key served.written ∈ pending
  · have recognised := result_evaluate_of_pending plain noAssertion stored service noTicket member
    exact Or.inl ⟨_, browse_of_gatewayed recognised⟩
  · rcases evaluate_of_not_pending plain noAssertion stored service noTicket settled.toComplete
      present member with ⟨redirect, left, sent, left_eq, upgrade, -, storedLeft, unchanged⟩
    rw [upgraded, Except.ok.injEq] at upgrade
    rcases visit_of_settled plain settled lacks third with ⟨serviceAgain, noTicketAgain⟩
    have noAssertionLeft : gate.hasAssertion left = false := by
      rw [hasAssertion_congr (unchanged _ differentKeys)]
      exact noAssertion
    have recognised := result_evaluate_of_pending plain noAssertionLeft storedLeft serviceAgain
      noTicketAgain (Set.mem_insert _ _)
    refine Or.inr ⟨redirect, served.written, ?_⟩
    rw [browse_of_redirect sent, left_eq, ← upgrade, browse_of_gatewayed recognised]

/--
A client that brings neither a ticket nor an access token is sent away once or twice, and is then
recognised on its return. If the assertion is looked for where the attempts are kept, the first
attempt passes for an assertion, and the client is sent away once.
-/
theorem silent_journey_ends (gate : Gate) (plain : gate.Plain) (url : Text)
    (absolute : Url.Absolute) (parsed : Url.Absolute.parse url = .ok absolute)
    (solid : ∀ char ∈ url, Text.isBlank char = false)
    (ascii : ∀ char ∈ absolute.url.authority, Text.isAscii char = true)
    (noBrackets : '[' ∉ absolute.url.authority ∧ ']' ∉ absolute.url.authority)
    (noTicket : Query.Lacks gate.artifact absolute.url.query)
    (noHiddenTicket : Query.Lacks gate.artifact (Query.without gate.artifact absolute.url.query))
    (session : Session) (shared : SharedStore)
    (noAssertion : gate.hasAssertion { session := some session, shared } = false)
    (noEntry : session.get? attemptsKey = none) (first second third : PlainVisit)
    (later : List PlainVisit) :
    (gate.options.assertionKey ≠ attemptsKey →
      EndsRecognised (gate.browse (first :: second :: third :: later) url
        { session := some session, shared })) ∧
    (gate.options.assertionKey = attemptsKey →
      ∃ sent, gate.browse (first :: second :: third :: later) url
        { session := some session, shared } = [.ok (.needsRedirect sent), .ok .authenticated]) := by
  have complete := Url.Absolute.complete_of_parse parsed solid ascii noBrackets
  have settled := complete.withoutField gate.artifact
  have split_url : Url.split url = .ok absolute.url := by
    have split_strip := (Url.Absolute.parse_eq_ok parsed).2
    rwa [Text.strip_of_solid solid] at split_strip
  have service : gate.serviceUrl (first.request url) = _ :=
    serviceUrl_of_ofText plain (ServiceUrl.ofText_of_parse parsed gate.artifact)
  have stored : Attempts.Stored (Memory.sessionValue? { session := some session, shared }
      attemptsKey) ∅ := by
    rw [Memory.sessionValue?, Option.bind_some, noEntry]
    exact .absent
  rcases evaluate_of_not_pending plain noAssertion stored service
    (hasTicket_eq_false split_url noTicket) settled.toComplete (by simp) (Set.notMem_empty _) with
    ⟨redirect, left, sent, left_eq, upgrade, present, storedLeft, unchanged⟩
  rcases ServiceUrl.upgradeToHttps_written settled with
    ⟨upgraded, upgrade_eq, settledUpgraded, upgradedAgain, query_eq⟩
  rw [upgrade_eq, Except.ok.injEq] at upgrade
  rw [browse_of_redirect sent, left_eq, ← upgrade]
  constructor
  · intro differentKeys
    have noAssertionLeft : gate.hasAssertion left = false := by
      rw [hasAssertion_congr (unchanged _ differentKeys)]
      exact noAssertion
    have lacks : Query.Lacks gate.artifact upgraded.query := by
      rw [query_eq]
      exact noHiddenTicket
    rcases browse_of_settled plain differentKeys settledUpgraded lacks upgradedAgain noAssertionLeft
      present storedLeft second third later with ⟨returnUrl, ends⟩ | ⟨again, returnUrl, ends⟩
    · rw [ends]
      exact Or.inl ⟨redirect, returnUrl, rfl⟩
    · rw [ends]
      exact Or.inr ⟨redirect, again, returnUrl, rfl⟩
  · intro sameKey
    have assertion := hasAssertion_of_stored sameKey storedLeft ⟨_, Set.mem_insert _ _⟩
    have judged : gate.excludedUrl? (second.request upgraded.written) = .ok none := by
      rw [excludedUrl?, plain.exclusion]
    refine ⟨redirect, ?_⟩
    rw [browse_of_authenticated]
    rw [(Course.authenticated judged assertion).evaluate_eq]

/-- A silent gate that looks for the assertion under the given session key. -/
def withAssertionKey (assertionKey : Text) : Gate :=
  .withOptions { gateway := true, assertionKey }

theorem plain_withAssertionKey (assertionKey : Text) : (withAssertionKey assertionKey).Plain :=
  ⟨rfl, ⟨_, parse_withOptions _⟩, rfl, rfl, rfl, rfl⟩

/-- A visit without headers. -/
def bareVisit (fresh : Fresh) : PlainVisit where
  request url := .ofFields url [] none
  fresh
  url_request _ := rfl
  parameters_request _ := rfl
  header_request _ := rfl

/-- A URL whose port is written with a zero in front. -/
def paddedPort : Url where
  scheme := "http".toList
  authority := "app.example.org:080".toList
  path := "/home".toList

theorem complete_paddedPort : paddedPort.Complete := by
  refine ⟨⟨by decide, by decide, by decide, List.all_eq_true.mp (by decide +kernel), ?_, by decide,
    by decide, by decide, ?_, ?_⟩, ⟨"app.example.org".toList, by decide +kernel⟩,
    ⟨some 80, by decide +kernel⟩⟩
  · rintro char isHead
    cases isHead
    rfl
  · intro char member
    simpa using List.all_eq_true.mp (by decide : paddedPort.path.all (!Text.isBlank ·) = true) char
      member
  · intro char member
    cases member

/-- What a journey that starts at the URL asks of it. -/
theorem parse_paddedPort (name : Text) :
    ∃ absolute, Url.Absolute.parse paddedPort.written = .ok absolute ∧
      (∀ char ∈ absolute.url.authority, Text.isAscii char = true) ∧
      ('[' ∉ absolute.url.authority ∧ ']' ∉ absolute.url.authority) ∧
      Query.Lacks name absolute.url.query ∧
      Query.Lacks name (Query.without name absolute.url.query) := by
  rcases complete_paddedPort.parse_written with ⟨absolute, parsed, url_eq⟩
  have lacks : Query.Lacks name [] := by
    intro value found
    cases found
  refine ⟨absolute, parsed, ?_, ?_, ?_, ?_⟩
  · rw [url_eq]
    intro char member
    exact (Url.isPlainChar_iff.mp (complete_paddedPort.authority char member)).1
  · rw [url_eq]
    decide
  · rw [url_eq]
    exact lacks
  · rw [url_eq]
    exact lacks

/-- A journey to a port with a zero in front ends within three visits. -/
theorem silent_journey_ends_at_padded_port :
    EndsRecognised ((withAssertionKey "user".toList).browse
      [bareVisit ⟨['m'], ['s']⟩, bareVisit ⟨['n'], ['t']⟩, bareVisit ⟨['o'], ['u']⟩]
      paddedPort.written { session := some .empty }) := by
  rcases parse_paddedPort (withAssertionKey "user".toList).artifact with
    ⟨absolute, parsed, ascii, noBrackets, noTicket, noHiddenTicket⟩
  exact (silent_journey_ends _ (plain_withAssertionKey _) paddedPort.written absolute parsed
    (fun _ => complete_paddedPort.isBlank_of_mem_written) ascii noBrackets noTicket noHiddenTicket
    .empty .empty rfl rfl _ _ _ []).1 (by decide)

/-- The client is not recognised when the assertion is looked for where the attempts are kept. -/
theorem silent_journey_not_always_recognised :
    ¬∀ gate : Gate, gate.Plain → ∀ (url : Text) (absolute : Url.Absolute),
      Url.Absolute.parse url = .ok absolute →
      (∀ char ∈ url, Text.isBlank char = false) →
      (∀ char ∈ absolute.url.authority, Text.isAscii char = true) →
      ('[' ∉ absolute.url.authority ∧ ']' ∉ absolute.url.authority) →
      Query.Lacks gate.artifact absolute.url.query →
      Query.Lacks gate.artifact (Query.without gate.artifact absolute.url.query) →
      ∀ (session : Session) (shared : SharedStore),
        gate.hasAssertion { session := some session, shared } = false →
        session.get? attemptsKey = none →
        ∀ (first second third : PlainVisit) (later : List PlainVisit),
          EndsRecognised (gate.browse (first :: second :: third :: later) url
            { session := some session, shared }) := by
  intro claim
  rcases parse_paddedPort (withAssertionKey attemptsKey).artifact with
    ⟨absolute, parsed, ascii, noBrackets, noTicket, noHiddenTicket⟩
  have ends : EndsRecognised ((withAssertionKey attemptsKey).browse
      [bareVisit ⟨['m'], ['s']⟩, bareVisit ⟨['n'], ['t']⟩, bareVisit ⟨['o'], ['u']⟩]
      paddedPort.written { session := some .empty }) :=
    claim _ (plain_withAssertionKey _) paddedPort.written absolute parsed
      (fun _ => complete_paddedPort.isBlank_of_mem_written) ascii noBrackets noTicket noHiddenTicket
      .empty .empty rfl rfl _ _ _ []
  have answers : ∃ sent, (withAssertionKey attemptsKey).browse
      [bareVisit ⟨['m'], ['s']⟩, bareVisit ⟨['n'], ['t']⟩, bareVisit ⟨['o'], ['u']⟩]
      paddedPort.written { session := some .empty } =
        [.ok (.needsRedirect sent), .ok .authenticated] := ⟨_, rfl⟩
  rcases answers with ⟨sent, answers⟩
  rw [answers] at ends
  rcases ends with ⟨_, _, ends⟩ | ⟨_, _, _, ends⟩ <;> simp at ends

end Gate

end SignOnGate
