import SignOnGate.Proofs.Gate.Faults

/-!
# Requests with a URL that cannot be read

A gate reads the URL of a request to make a service URL of it. Where it comes to that, a URL that is
no absolute URL ends the evaluation, before the resolver has seen the request. A configured service
URL stands in for the URL of the request; then the client is held back as any other client is,
unless it brings a credential or returns from an attempt.
-/

namespace SignOnGate

namespace Gate

open Gateway

/-- What lets a client pass whose URL is not read: a ticket, an access token, or an attempt. -/
inductive Admits (gate : Gate) (request : Request) (service : Text) (memory : Memory) : Prop where
  | ticket (brought : gate.hasTicket request = true)
  | token (token : Text) (bearing : bearerToken? request = some token)
  | attempt (silent : gate.options.gateway = true) (consumed : Memory)
      (consume : gate.options.resolver.consume request service memory = (.ok true, consumed))

variable {gate : Gate} {request : Request} {fresh : Fresh} {memory : Memory}

/-- A URL that is rejected ends an evaluation that comes to read it, and nothing is written. -/
theorem evaluate_of_rejected (consults : gate.Consults request memory)
    (reads : gate.options.gateway = true ∨ gate.Stranger request)
    (notCounted : ServiceUrl.counted? gate.options.service = none) {url : Text}
    (hasUrl : request.url = .ok url) {rejection : Url.Rejection}
    (rejected : Url.Absolute.parse url = .error rejection) :
    (gate.evaluate request fresh memory).result = .error (.request rejection) ∧
      (gate.evaluate request fresh memory).memory = memory := by
  have unreadable := serviceUrl_of_rejected notCounted hasUrl rejected
  cases silent : gate.options.gateway with
  | true =>
      rw [(Course.silentlyUnreadable consults silent _ unreadable).evaluate_eq]
      exact ⟨rfl, rfl⟩
  | false =>
      have stranger : gate.Stranger request := by
        rcases reads with isSilent | stranger
        · rw [silent] at isSilent
          cases isSilent
        · exact stranger
      rw [(Course.openlyUnreadable consults silent stranger _ unreadable).evaluate_eq]
      exact ⟨rfl, rfl⟩

/-- Under a configured service URL, a consulting request passes only by what admits it. -/
theorem admits_of_passesThrough (consults : gate.Consults request memory) {service : Text}
    (counted : ServiceUrl.counted? gate.options.service = some service) {decision : Decision}
    (decided : (gate.evaluate request fresh memory).result = .ok decision)
    (passes : decision.passesThrough = true) : gate.Admits request service memory := by
  have readable := serviceUrl_of_counted counted request
  have notSent {serviceUrl : Text} (redirected : gate.redirectWith serviceUrl = .ok decision) :
      gate.Admits request service memory := by
    rcases redirectWith_eq_ok redirected with ⟨redirect, rfl⟩
    cases passes
  have course := evaluate_course gate request fresh memory
  generalize gate.evaluate request fresh memory = outcome at course decided
  cases course with
  | excluded url accepted =>
      rw [consults.judged] at accepted
      cases accepted
  | authenticated judged assertion =>
      rw [consults.noAssertion] at assertion
      cases assertion
  | silentlyTicketed _ silent serviceUrl served returning consumed consume ticket =>
      exact .ticket ticket
  | gatewayed _ silent serviceUrl served consumed consume noTicket =>
      rw [readable] at served
      cases served
      exact .attempt silent consumed consume
  | silentlyBearing _ silent serviceUrl served consumed consume noTicket token bearing =>
      exact .token token bearing
  | silentlySent _ silent serviceUrl served consumed consume stranger settled left remember =>
      exact notSent decided
  | openlyTicketed _ notSilent ticket => exact .ticket ticket
  | openlyBearing _ notSilent noTicket token bearing => exact .token token bearing
  | openlySent _ notSilent stranger serviceUrl served => exact notSent decided
  | _ => cases decided

/--
A request whose URL is rejected, and whose session holds no assertion, fails by that rejection, and
nothing is written: always where attempts are silent, and otherwise unless the request brings a
credential. Under a configured service URL it passes only by a credential or an attempt.
-/
theorem rejected_url_fails_closed (gate : Gate) (noExclusion : gate.options.exclusion = none)
    (request : Request) (url : Text) (hasUrl : request.url = .ok url) (rejection : Url.Rejection)
    (rejected : Url.Absolute.parse url = .error rejection) (fresh : Fresh) (memory : Memory)
    (noAssertion : gate.hasAssertion memory = false) :
    (ServiceUrl.counted? gate.options.service = none →
      gate.options.gateway = true ∨ gate.Stranger request →
      (gate.evaluate request fresh memory).result = .error (.request rejection) ∧
        (gate.evaluate request fresh memory).memory = memory) ∧
    ∀ service, ServiceUrl.counted? gate.options.service = some service →
      ∀ decision, (gate.evaluate request fresh memory).result = .ok decision →
        decision.passesThrough = true → gate.Admits request service memory := by
  have consults : gate.Consults request memory := by
    refine ⟨?_, noAssertion⟩
    rw [Gate.excludedUrl?, noExclusion]
  refine ⟨?_, ?_⟩
  · intro notCounted reads
    exact evaluate_of_rejected consults reads notCounted hasUrl rejected
  · intro service counted decision decided passes
    exact admits_of_passesThrough consults counted decided passes

/-- A gate with a configured service URL. -/
def portalGate : Gate :=
  .withOptions { service := some "https://portal.example.org/cas-callback".toList }

/-- A request whose URL is no URL, with the given headers and parameters. -/
def strayRequest (headers parameters : List (Text × Text)) : Request :=
  .ofFields "not a url".toList headers (some parameters)

theorem parse_stray : Url.Absolute.parse "not a url".toList =
    .error (.incomplete "not a url".toList) :=
  rfl

/-- Neither a ticket and a token nor a configured service URL gets a stray request through. -/
theorem stray_requests_fail_closed :
    (silentGate.evaluate
      (strayRequest [("Authorization".toList, "Bearer abc".toList)]
        [("ticket".toList, "ST-1".toList)])
      ⟨['m'], ['s']⟩ { session := some .empty }).result =
        .error (.request (.incomplete "not a url".toList)) ∧
    ∀ decision, (portalGate.evaluate (strayRequest [] []) ⟨['m'], ['s']⟩ {}).result =
      .ok decision → decision.passesThrough = false := by
  constructor
  · exact ((rejected_url_fails_closed silentGate rfl _ _ rfl _ parse_stray ⟨['m'], ['s']⟩
      { session := some .empty } rfl).1 rfl (Or.inl rfl)).1
  · intro decision decided
    by_contra passes
    have admits := (rejected_url_fails_closed portalGate rfl _ _ rfl _ parse_stray ⟨['m'], ['s']⟩ {}
      rfl).2 _ rfl decision decided (by simpa using passes)
    cases admits with
    | ticket brought => cases brought
    | token token bearing => cases bearing
    | attempt silent => cases silent

/-- Under a configured service URL, a request whose URL is rejected is sent to the login service. -/
theorem rejected_url_not_always_refused :
    ¬∀ gate : Gate, gate.options.exclusion = none → ∀ (request : Request) (url : Text),
      request.url = .ok url → ∀ rejection, Url.Absolute.parse url = .error rejection →
      ∀ (fresh : Fresh) (memory : Memory), gate.hasAssertion memory = false →
        ∃ fault : Fault, fault.OfRequest ∧
          (gate.evaluate request fresh memory).result = .error fault := by
  intro claim
  rcases claim portalGate rfl (strayRequest [] []) _ rfl _ parse_stray ⟨['m'], ['s']⟩ {} rfl with
    ⟨fault, -, failed⟩
  have sent : ∃ decision,
      (portalGate.evaluate (strayRequest [] []) ⟨['m'], ['s']⟩ {}).result = .ok decision :=
    ⟨_, rfl⟩
  rcases sent with ⟨decision, sent⟩
  rw [sent] at failed
  cases failed

end Gate

end SignOnGate
