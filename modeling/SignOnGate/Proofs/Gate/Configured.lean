import SignOnGate.Proofs.Gate.Faults
import SignOnGate.Proofs.Gate.Processing

/-!
# No faults of the configuration at a visit

The configuration is refused when a gate is set up, or never. The login URL is read again whenever
its host follows a service into another domain; what was accepted once is accepted then, because
reading strips the same blanks as storing did. All other faults of a visit come from the request,
the session, or a pattern without an answer.
-/

namespace SignOnGate

namespace Gate

open Gateway

/-- The faults that can blame the configuration: of the login URL, or of a plugin's own kind. -/
inductive Fault.OfConfiguration : Fault → Prop where
  | login (rejection : Url.Rejection) : OfConfiguration (.login rejection)
  | raised (kind : Text) : OfConfiguration (.escaped (.raised kind))
  | raisedAtAttempt (kind : Text) : OfConfiguration (.attempt (.escaped (.raised kind)))

/-- The faults that a visit without plugins can meet. -/
inductive Fault.OfVisit (request : Request) : Fault → Prop where
  | request {fault : Fault} (ofRequest : fault.OfRequest) : OfVisit request fault
  | unreadable {fault : Fault} (unreadable : fault.Unreadable request) : OfVisit request fault
  | noAnswer : OfVisit request (.escaped .noAnswer)
  | damaged (damage : DamagedAttempts) : OfVisit request (.attempt (.damaged damage))

variable {gate : Gate} {request : Request} {fresh : Fresh} {memory : Memory} {fault : Fault}

theorem Fault.OfVisit.not_ofConfiguration (ofVisit : fault.OfVisit request) :
    ¬fault.OfConfiguration := by
  intro ofConfiguration
  rcases ofVisit with ⟨⟨⟩⟩ | ⟨⟨⟩⟩ | _ | _ <;> cases ofConfiguration

theorem Fault.ofVisit_of_remember {serviceUrl : Text} {left : Memory} {fault : Gateway.Fault}
    {resolver : Resolver} (builtIn : resolver.BuiltIn)
    (failed : resolver.remember request serviceUrl fresh memory = (.error fault, left)) :
    Fault.OfVisit request (.attempt fault) := by
  rcases Resolver.remember_eq_error builtIn failed with rfl | ⟨damage, rfl⟩
  · rcases withoutSession_eq request with ofRequest | unreadable
    · exact .request ofRequest
    · exact .unreadable unreadable
  · exact .damaged damage

/-- A gate without plugins whose login URL was parsed fails by its visits only. -/
theorem ofVisit_of_evaluate (login : ∃ text, LoginUrl.parse text = .ok gate.login)
    (noPlugin : ∀ exclusion, gate.options.exclusion = some exclusion → exclusion.BuiltIn)
    (builtIn : gate.options.resolver.BuiltIn)
    (failed : (gate.evaluate request fresh memory).result = .error fault) :
    fault.OfVisit request := by
  cases arises_of_evaluate login noPlugin builtIn failed with
  | request ofRequest => exact .request ofRequest
  | unreadable unreadable => exact .unreadable unreadable
  | noAnswer unanswered => exact .noAnswer
  | remember consults silent stranger serviceUrl readable consumed consume other left remember =>
      exact Fault.ofVisit_of_remember builtIn remember

/--
A gate without plugins whose login URL was parsed never blames its configuration when it evaluates
or processes a visit. For every service host it has a login URL, and a redirect never fails by it.
-/
theorem visits_never_blame_configuration (gate : Gate)
    (login : ∃ text, LoginUrl.parse text = .ok gate.login)
    (noPlugin : ∀ exclusion, gate.options.exclusion = some exclusion → exclusion.BuiltIn)
    (builtIn : gate.options.resolver.BuiltIn) (delivery : gate.options.delivery.BuiltIn)
    (request : Request) (fresh : Fresh) (memory : Memory) (response : Response) :
    (∀ fault, (gate.evaluate request fresh memory).result = .error fault →
      ¬fault.OfConfiguration) ∧
    (∀ fault, (gate.process request fresh memory response).outcome.result = .error fault →
      ¬fault.OfConfiguration) ∧
    (∀ serviceHost, ∃ loginUrl, LoginRedirect.loginFor gate.login serviceHost = .ok loginUrl) ∧
    ∀ parameter serviceUrl flags rejection,
      LoginRedirect.build gate.login parameter serviceUrl flags ≠ .error (.login rejection) := by
  have evaluated (fault : Fault)
      (failed : (gate.evaluate request fresh memory).result = .error fault) :
      ¬fault.OfConfiguration :=
    (ofVisit_of_evaluate login noPlugin builtIn failed).not_ofConfiguration
  refine ⟨evaluated, ?_, ?_, ?_⟩
  · intro fault failed
    rw [result_process delivery] at failed
    exact evaluated fault failed
  · rcases login with ⟨text, parsed⟩
    exact LoginRedirect.loginFor_ne_error parsed
  · rcases login with ⟨text, parsed⟩
    intro parameter serviceUrl flags rejection failed
    rcases (LoginRedirect.build_eq_error_iff parsed parameter serviceUrl flags _).mp failed with
      ⟨other, -, same⟩
    cases same

/-- A gate whose login URL was given with blanks around it, for services on any host. -/
def paddedGate (serviceName : Text) : Gate where
  login := {
    firstPart := "sso.example".toList
    lastPart := "org".toList
    fullUrl := "https://sso.example.org:8443/cas/login?locale=de#top".toList }
  options := {
    exclusion := some (.contains "/public/".toList)
    serverName := some serviceName
    gateway := true }
  firstPart_ne_nil := by decide
  lastPart_ne_nil := by decide

theorem parse_paddedGate (serviceName : Text) :
    LoginUrl.parse " \thttps://sso.example.org:8443/cas/login?locale=de#top\n".toList =
      .ok (paddedGate serviceName).login := by
  have parsed : LoginUrl.parse
        " \thttps://sso.example.org:8443/cas/login?locale=de#top\n".toList =
      .ok ⟨"sso.example".toList, "org".toList,
        "https://sso.example.org:8443/cas/login?locale=de#top".toList⟩ := by
    decide +kernel
  exact parsed

/-- The login host follows a service into another domain, out of a login URL given with blanks. -/
theorem visit_from_other_domain_never_blames_configuration :
    (∀ fault,
      ((paddedGate "app.example.net".toList).process homeRequest ⟨['m'], ['s']⟩
        { session := some .empty } {}).outcome.result = .error fault → ¬fault.OfConfiguration) ∧
    LoginRedirect.loginFor (paddedGate "app.example.net".toList).login "app.example.net".toList =
      .ok "https://sso.example.net:8443/cas/login?locale=de#top".toList := by
  rcases visits_never_blame_configuration (paddedGate "app.example.net".toList)
    ⟨_, parse_paddedGate _⟩ (by rintro exclusion ⟨⟩; trivial) trivial trivial homeRequest
    ⟨['m'], ['s']⟩ { session := some .empty } {} with ⟨-, processed, -, -⟩
  refine ⟨processed, ?_⟩
  decide +kernel

end Gate

end SignOnGate
