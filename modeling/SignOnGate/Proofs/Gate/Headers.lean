import SignOnGate.Proofs.Gate.Processing
import SignOnGate.Proofs.Gate.Service
import SignOnGate.Proofs.Url.Quiet

/-!
# Headers without line ends

What a client sends, and what a resolver answers, gets into the headers of a redirect in two ways:
the last label of the service host becomes part of the login host, and the service URL becomes a
value of the query. The label went through a split, which drops tabs and line ends; the service URL
is percent-encoded. So a login URL without tabs and line ends makes headers without them.
-/

namespace SignOnGate

namespace LoginUrl

variable {text : Text} {login : LoginUrl}

theorem quiet_of_parse (parsed : parse text = .ok login) (quiet : Quiet (Text.strip text)) :
    Quiet login.firstPart ∧ Quiet login.fullUrl := by
  rcases parse_eq_ok parsed with ⟨absolute, absolute_eq, firstPart_eq, -, fullUrl_eq⟩
  have host := (Url.Absolute.quiet_of_parse absolute_eq).host absolute.hostname?_eq
  rw [firstPart_eq, fullUrl_eq]
  exact ⟨host.beforeLast '.', quiet⟩

end LoginUrl

namespace LoginRedirect

variable {login : LoginUrl} {redirect : LoginRedirect}

/-- A quiet host that is put into a quiet login URL gives a quiet one. -/
theorem quiet_loginFor (firstPart : Quiet login.firstPart) (fullUrl : Quiet login.fullUrl)
    {serviceHost loginUrl : Text} (host : Quiet serviceHost)
    (rewritten : loginFor login serviceHost = .ok loginUrl) : Quiet loginUrl := by
  simp only [loginFor] at rewritten
  split at rewritten
  · cases rewritten
    exact fullUrl
  · cases parsed : Url.Absolute.parse login.fullUrl with
    | error rejection =>
        rw [parsed] at rewritten
        cases rewritten
    | ok absolute =>
        rw [parsed] at rewritten
        cases rewritten
        have quiet := Url.Absolute.quiet_of_parse parsed
        have label : Quiet (rightmostLabel serviceHost) := host.afterLast '.'
        have aligned := firstPart.append (label.cons (by decide : Url.isInnerNoise '.' = false))
        exact Url.Quiet.join ⟨quiet.scheme, aligned.authorityOf absolute.port, quiet.path,
          quiet.query, quiet.fragment⟩

theorem quiet_flag {name : Text} (quiet : Quiet name) (present : Bool) :
    Quiet (flag name present) := by
  cases present with
  | true => exact (quiet.cons (by decide)).append (by decide)
  | false => exact .nil

/-- The target of a redirect is quiet whatever the service URL is, because that is encoded. -/
theorem quiet_withService {loginUrl parameter : Text} (login : Quiet loginUrl)
    (name : Quiet parameter) (serviceUrl : Text) (flags : RedirectFlags) :
    Quiet (withService loginUrl parameter serviceUrl flags) := by
  have separator : Url.isInnerNoise (if (Text.before '#' loginUrl).contains '?' then '&' else '?') =
      false := by
    split <;> decide
  have value : Quiet ('=' :: Percent.encode serviceUrl) :=
    (Quiet.encode serviceUrl).cons (by decide)
  have service := ((login.before '#').append (name.cons separator)).append value
  have renewed := service.append (quiet_flag (by decide : Quiet "renew".toList) flags.renew)
  have silenced := renewed.append (quiet_flag (by decide : Quiet "gateway".toList) flags.gateway)
  exact silenced.append (login.mono (List.dropWhile_subset _))

/-- Both URLs of a redirect are quiet when the login URL is, whatever the service URL. -/
theorem quiet_of_build {text : Text} (parsed : LoginUrl.parse text = .ok login)
    (quiet : Quiet (Text.strip text)) {parameter serviceUrl : Text} (name : Quiet parameter)
    {flags : RedirectFlags} (built : build login parameter serviceUrl flags = .ok redirect) :
    Quiet redirect.loginUrl ∧ Quiet redirect.redirectUrl := by
  rcases build_eq_ok built with ⟨absolute, absolute_eq, login_eq, -, target_eq⟩
  rcases LoginUrl.quiet_of_parse parsed quiet with ⟨firstPart, fullUrl⟩
  have host := (Url.Absolute.quiet_of_parse absolute_eq).host absolute.hostname?_eq
  have loginUrl := quiet_loginFor firstPart fullUrl host login_eq
  refine ⟨loginUrl, ?_⟩
  rw [target_eq]
  exact quiet_withService loginUrl name redirect.serviceUrl flags

end LoginRedirect

namespace Gate

variable {gate : Gate} {request : Request} {fresh : Fresh} {memory : Memory}
  {redirect : LoginRedirect}

theorem quiet_serviceParameter (protocol : Protocol) : Quiet protocol.serviceParameter := by
  cases protocol <;> decide

/-- A client is sent away by a redirect that was built for some service URL. -/
theorem exists_build_of_sent
    (sent : (gate.evaluate request fresh memory).result = .ok (.needsRedirect redirect)) :
    ∃ serviceUrl, LoginRedirect.build gate.login gate.options.protocol.serviceParameter serviceUrl
      gate.flags = .ok redirect := by
  have course := evaluate_course gate request fresh memory
  generalize gate.evaluate request fresh memory = outcome at course sent
  cases course with
  | silentlySent consults silent serviceUrl readable consumed consume stranger settled left
      remember =>
      exact ⟨settled, build_of_redirectWith sent⟩
  | openlySent consults notSilent stranger serviceUrl readable =>
      exact ⟨serviceUrl, build_of_redirectWith sent⟩
  | _ => cases sent

/--
The login URL and the target of every redirect are without tabs and line ends, whatever the request
and the resolver say, and so is every header that a delivery without a plugin adds to the response.
-/
theorem redirects_carry_no_line_ends (gate : Gate)
    (login : ∃ text, LoginUrl.parse text = .ok gate.login ∧ Quiet (Text.strip text))
    (request : Request) (fresh : Fresh) (memory : Memory) (redirect : LoginRedirect)
    (sent : (gate.evaluate request fresh memory).result = .ok (.needsRedirect redirect)) :
    Quiet redirect.loginUrl ∧ Quiet redirect.redirectUrl ∧
      (gate.options.delivery.BuiltIn → ∀ response,
        ∀ header ∈ (gate.process request fresh memory response).response.headers,
          header ∈ response.headers ∨ Quiet header.2) := by
  rcases login with ⟨text, parsed, quiet⟩
  rcases exists_build_of_sent sent with ⟨serviceUrl, built⟩
  rcases LoginRedirect.quiet_of_build parsed quiet (quiet_serviceParameter _) built with
    ⟨loginUrl, redirectUrl⟩
  refine ⟨loginUrl, redirectUrl, ?_⟩
  intro builtIn response header member
  rcases mem_headers_process builtIn sent member with earlier | rfl | rfl
  · exact Or.inl earlier
  · exact Or.inr loginUrl
  · exact Or.inr redirectUrl

/-- A resolver that sends clients with a given service URL. -/
def settlingResolver (serviceUrl : Text) : Gateway.Resolver :=
  .custom "SettlingResolver".toList (some {
    consume := fun _ _ memory => (.ok false, memory)
    remember := fun _ _ _ memory => (.ok serviceUrl, memory) })

/-- A service URL that tries to begin a header of its own, in its host and in its path. -/
def splittingUrl : Text :=
  "https://app.example.n\r\net/home\r\nSet-Cookie:\tid=1".toList

/-- The line ends are dropped from the label that the login host takes, and encoded in the query. -/
theorem redirect_for_splitting_url_carries_no_line_ends :
    ∃ redirect,
      ((withOptions { gateway := true, resolver := settlingResolver splittingUrl }).evaluate
        homeRequest ⟨['m'], ['s']⟩ {}).result = .ok (.needsRedirect redirect) ∧
      redirect.loginUrl = "https://sso.example.net/cas/login".toList ∧
      Quiet redirect.loginUrl ∧ Quiet redirect.redirectUrl := by
  have sent : ((withOptions { gateway := true, resolver := settlingResolver splittingUrl }).evaluate
      homeRequest ⟨['m'], ['s']⟩ {}).result = .ok (.needsRedirect {
        loginUrl := "https://sso.example.net/cas/login".toList
        serviceUrl := splittingUrl
        redirectUrl := ("https://sso.example.net/cas/login?service=https%3A%2F%2Fapp.example.n" ++
          "%0D%0Aet%2Fhome%0D%0ASet-Cookie%3A%09id%3D1&gateway=true").toList }) := by
    decide +kernel
  rcases redirects_carry_no_line_ends _ ⟨_, parse_withOptions _, by decide +kernel⟩ _ _ _ _
      sent with
    ⟨loginUrl, redirectUrl, -⟩
  exact ⟨_, sent, rfl, loginUrl, redirectUrl⟩

end Gate

end SignOnGate
