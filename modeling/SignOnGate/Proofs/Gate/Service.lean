import SignOnGate.Gate.Evaluate
import SignOnGate.Proofs.ServiceUrl

/-!
# The service URL of a gate

Which service URL a gate has for a request, and when it can redirect a client with one. A configured
service URL stands in for the URL of every request, which is then not read.
-/

namespace SignOnGate

section

variable {ε δ α : Type} {value : Except ε α} {translate : ε → δ}

theorem mapError_eq_ok_iff {result : α} :
    value.mapError translate = .ok result ↔ value = .ok result := by
  cases value <;> simp [Except.mapError]

theorem mapError_eq_error_iff {fault : δ} :
    value.mapError translate = .error fault ↔
      ∃ cause, value = .error cause ∧ translate cause = fault := by
  cases value <;> simp [Except.mapError]

end

namespace ServiceUrl

/-- A configured text, if it counts; an empty one does not. -/
def counted? : Option Text → Option Text
  | none | some [] => none
  | some (head :: rest) => some (head :: rest)

/-- The service URL for the parts of a request URL, under a configured service and server name. -/
def chosen (service serverName : Option Text) (artifact : Text) (url : Url) : Text :=
  (counted? service).getD (ofUrl url artifact serverName)

theorem ofUrl_of_not_counted {serverName : Option Text} (notCounted : counted? serverName = none)
    (url : Url) (artifact : Text) : ofUrl url artifact serverName = ofUrl url artifact none := by
  cases serverName with
  | none => rfl
  | some name =>
      cases name with
      | nil => rfl
      | cons head rest => cases notCounted

variable {request : Request} {service serverName : Option Text} {artifact text url : Text}

/-- A configured service URL is the one of every request. -/
theorem construct_of_counted (counted : counted? service = some text) :
    construct request artifact service serverName = .ok text := by
  match service with
  | none => cases counted
  | some [] => cases counted
  | some (head :: rest) => exact congrArg Except.ok (Option.some.inj counted)

/-- Where none is configured, the service URL is made from the URL of the request. -/
theorem construct_of_not_counted (notCounted : counted? service = none)
    (hasUrl : request.url = .ok url) :
    construct request artifact service serverName =
      (ofText url artifact serverName).mapError Fault.rejected := by
  match service with
  | none => simp only [construct, hasUrl]
  | some [] => simp only [construct, hasUrl]
  | some (head :: rest) => cases notCounted

/-- Where none is configured, a request without a URL has no service URL either. -/
theorem construct_of_unreadable (notCounted : counted? service = none) {cause : UnreadableUrl}
    (noUrl : request.url = .error cause) :
    construct request artifact service serverName = .error (.unreadable cause) := by
  match service with
  | none => simp only [construct, noUrl]
  | some [] => simp only [construct, noUrl]
  | some (head :: rest) => cases notCounted

/-- A request without a service URL has no URL, or one that is rejected. -/
theorem construct_eq_error {fault : Fault}
    (failed : construct request artifact service serverName = .error fault) :
    (∃ cause, request.url = .error cause ∧ fault = .unreadable cause) ∨
      ∃ rejection, fault = .rejected rejection := by
  cases counted : counted? service with
  | some text =>
      rw [construct_of_counted counted] at failed
      cases failed
  | none =>
      cases hasUrl : request.url with
      | error cause =>
          rw [construct_of_unreadable counted hasUrl] at failed
          exact Or.inl ⟨cause, rfl, (Except.error.inj failed).symm⟩
      | ok url =>
          rw [construct_of_not_counted counted hasUrl] at failed
          rcases mapError_eq_error_iff.mp failed with ⟨rejection, -, rfl⟩
          exact Or.inr ⟨rejection, rfl⟩

end ServiceUrl

namespace Gate

variable {gate : Gate} {request : Request} {fault : Fault} {service url : Text}

/-- Where a service URL is configured, a gate has it for every request. -/
theorem serviceUrl_of_counted (counted : ServiceUrl.counted? gate.options.service = some service)
    (request : Request) : gate.serviceUrl request = .ok service := by
  rw [Gate.serviceUrl, ServiceUrl.construct_of_counted counted]
  rfl

theorem serviceUrl_of_not_counted (notCounted : ServiceUrl.counted? gate.options.service = none)
    (hasUrl : request.url = .ok url) :
    gate.serviceUrl request =
      (ServiceUrl.ofText url gate.options.protocol.artifactParameter
        gate.options.serverName).mapError Fault.request := by
  rw [Gate.serviceUrl, ServiceUrl.construct_of_not_counted notCounted hasUrl]
  cases ServiceUrl.ofText url gate.options.protocol.artifactParameter gate.options.serverName with
  | ok serviceUrl => rfl
  | error rejection => rfl

theorem serviceUrl_of_rejected (notCounted : ServiceUrl.counted? gate.options.service = none)
    (hasUrl : request.url = .ok url) {rejection : Url.Rejection}
    (rejected : Url.Absolute.parse url = .error rejection) :
    gate.serviceUrl request = .error (.request rejection) := by
  rw [serviceUrl_of_not_counted notCounted hasUrl, ServiceUrl.ofText, rejected]
  rfl

/-- The service URL of a request whose URL is absolute. -/
theorem serviceUrl_of_parse (hasUrl : request.url = .ok url) {absolute : Url.Absolute}
    (parsed : Url.Absolute.parse url = .ok absolute) :
    gate.serviceUrl request = .ok (ServiceUrl.chosen gate.options.service gate.options.serverName
      gate.options.protocol.artifactParameter absolute.url) := by
  rw [ServiceUrl.chosen]
  cases counted : ServiceUrl.counted? gate.options.service with
  | some service => exact serviceUrl_of_counted counted request
  | none =>
      rw [serviceUrl_of_not_counted counted hasUrl, ServiceUrl.ofText, parsed]
      rfl

/-- Whoever gets a decision from `redirectWith` is sent away. -/
theorem redirectWith_eq_ok {serviceUrl : Text} {decision : Decision}
    (redirected : gate.redirectWith serviceUrl = .ok decision) :
    ∃ redirect, decision = .needsRedirect redirect := by
  rw [redirectWith] at redirected
  split at redirected
  · cases redirected
  · cases redirected
  · rename_i redirect built
    cases redirected
    exact ⟨redirect, rfl⟩

/-- The redirect of a decision is the one that was built for the service URL. -/
theorem build_of_redirectWith {serviceUrl : Text} {redirect : LoginRedirect}
    (redirected : gate.redirectWith serviceUrl = .ok (.needsRedirect redirect)) :
    LoginRedirect.build gate.login gate.options.protocol.serviceParameter serviceUrl gate.flags =
      .ok redirect := by
  rw [redirectWith] at redirected
  split at redirected
  · cases redirected
  · cases redirected
  · rename_i built
    cases redirected
    exact built

/-- Sending a client away fails exactly when the service URL is rejected. -/
theorem redirectWith_eq_error_iff (login : ∃ text, LoginUrl.parse text = .ok gate.login)
    (serviceUrl : Text) :
    gate.redirectWith serviceUrl = .error fault ↔
      ∃ rejection, Url.Absolute.parse serviceUrl = .error rejection ∧
        fault = .request rejection := by
  rcases login with ⟨text, parsed⟩
  have build_iff := LoginRedirect.build_eq_error_iff parsed gate.options.protocol.serviceParameter
    serviceUrl gate.flags
  cases built : LoginRedirect.build gate.login gate.options.protocol.serviceParameter serviceUrl
    gate.flags with
  | ok redirect =>
      simp only [redirectWith, built, reduceCtorEq, false_iff]
      rintro ⟨rejection, rejected, -⟩
      have failed := (build_iff (.service rejection)).mpr ⟨rejection, rejected, rfl⟩
      rw [built] at failed
      cases failed
  | error error =>
      rcases (build_iff error).mp built with ⟨rejection, rejected, rfl⟩
      simp [redirectWith, built, rejected, eq_comm]

end Gate

end SignOnGate
