import SignOnGate.Proofs.Gate.Faults
import SignOnGate.Setup

/-!
# What accepted settings promise

Setting up a gate reads the login URL and builds the collaborators. The service URL and the server
name are taken as they are, so a gate can be accepted although it has no service URL that can be
redirected to; it then fails every client that is to be sent away. This file gives the exact
condition under which a gate that makes no silent attempts fails, in terms of its settings.
-/

namespace SignOnGate

namespace Setup

theorem bind_eq_ok_iff {ε α β : Type} {first : Except ε α} {next : α → Except ε β} {result : β} :
    first >>= next = .ok result ↔ ∃ value, first = .ok value ∧ next value = .ok result := by
  cases first <;> simp [Bind.bind, Except.bind]

/-- A gate has the login URL of settings, and their options. -/
structure Describes (settings : Settings) (gate : Gate) : Prop where
  login : LoginUrl.parse settings.loginUrl = .ok gate.login
  renew : gate.options.renew = settings.renew
  gateway : gate.options.gateway = settings.gateway
  protocol : gate.options.protocol = settings.protocol
  service : gate.options.service = settings.service
  serverName : gate.options.serverName = settings.serverName

/-- A gate is made of its login URL and its options. -/
theorem make_eq_ok_iff {login : LoginUrl} {options : GateOptions} {gate : Gate} :
    Gate.make login options = .ok gate ↔ gate.login = login ∧ gate.options = options := by
  constructor
  · intro made
    rw [Gate.make] at made
    split at made
    · cases made
      exact ⟨rfl, rfl⟩
    · cases made
  · rintro ⟨rfl, rfl⟩
    rw [Gate.make, dif_pos ⟨gate.firstPart_ne_nil, gate.lastPart_ne_nil⟩]

variable {catalogue : Plugin.Catalogue} {settings : Settings} {collaborators : Collaborators}
  {gate : Gate}

/-- Whatever the collaborators, a gate that is set up is the one that the settings describe. -/
theorem describes_of_accepted (accepted : Setup.gate catalogue settings collaborators = .ok gate) :
    Describes settings gate := by
  rcases bind_eq_ok_iff.mp accepted with ⟨login, parsed, accepted⟩
  have made : ∃ exclusion resolver delivery, Gate.make login {
      renew := settings.renew
      gateway := settings.gateway
      protocol := settings.protocol
      exclusion, resolver, delivery
      service := settings.service
      serverName := settings.serverName } = .ok gate := by
    obtain ⟨exclusion?, resolver?, delivery?⟩ := collaborators
    -- each collaborator is there already or is built, and the rest goes on the same way
    cases exclusion? <;> rcases bind_eq_ok_iff.mp accepted with ⟨exclusion, -, accepted⟩ <;>
      cases resolver? <;> rcases bind_eq_ok_iff.mp accepted with ⟨resolver, -, accepted⟩ <;>
      cases delivery? <;> rcases bind_eq_ok_iff.mp accepted with ⟨delivery, -, accepted⟩ <;>
      exact ⟨exclusion, resolver, delivery, mapError_eq_ok_iff.mp accepted⟩
  rcases made with ⟨exclusion, resolver, delivery, made⟩
  rcases make_eq_ok_iff.mp made with ⟨rfl, options_eq⟩
  constructor
  · exact mapError_eq_ok_iff.mp parsed
  all_goals rw [options_eq]

/--
A gate that is set up from settings without silent attempts, and has no plugin as exclusion rule,
fails at a request with an absolute URL exactly when its pattern has no answer, or when a client is
to be sent away with a service URL that is rejected. If the settings name neither a service URL nor
a server, that takes a URL that ends in its authority, and in a blank.
-/
theorem accepted_settings_fail_iff (catalogue : Plugin.Catalogue) (settings : Settings)
    (collaborators : Collaborators) (gate : Gate)
    (accepted : Setup.gate catalogue settings collaborators = .ok gate)
    (notSilent : settings.gateway = false)
    (builtIn : ∀ exclusion, gate.options.exclusion = some exclusion → exclusion.BuiltIn)
    (request : Request) (url : Text) (hasUrl : request.url = .ok url) (absolute : Url.Absolute)
    (parsed : Url.Absolute.parse url = .ok absolute) (fresh : Fresh) (memory : Memory) :
    (∀ fault, (gate.evaluate request fresh memory).result = .error fault ↔
      (gate.HasNoAnswer request ∧ fault = .escaped .noAnswer) ∨
        ∃ rejection, gate.CannotSend request memory
            (ServiceUrl.chosen settings.service settings.serverName
              settings.protocol.artifactParameter absolute.url) rejection ∧
          fault = .request rejection) ∧
    (ServiceUrl.counted? settings.service = none → ServiceUrl.counted? settings.serverName = none →
      ∀ rejection, Url.Absolute.parse (ServiceUrl.chosen settings.service settings.serverName
          settings.protocol.artifactParameter absolute.url) = .error rejection →
        absolute.url.path = [] ∧
        Query.without settings.protocol.artifactParameter absolute.url.query = [] ∧
        ∃ char ∈ absolute.url.authority.getLast?, Text.isBlank char = true) := by
  have describes := describes_of_accepted accepted
  constructor
  · intro fault
    have readable : gate.serviceUrl request = .ok _ := Gate.serviceUrl_of_parse hasUrl parsed
    rw [describes.service, describes.serverName, describes.protocol] at readable
    exact Gate.evaluate_eq_error_iff_of_not_silent ⟨_, describes.login⟩ builtIn
      (describes.gateway.trans notSilent) hasUrl readable
  · intro noService noServer rejection rejected
    rw [ServiceUrl.chosen, noService, Option.getD_none,
      ServiceUrl.ofUrl_of_not_counted noServer] at rejected
    exact ServiceUrl.ends_of_rejected parsed rejected

/-- Settings whose service URL is no absolute URL. -/
def strayServiceSettings : Settings where
  loginUrl := "https://sso.example.org/cas/login".toList
  renew := false
  gateway := false
  exclusionRule := none
  exclusionType := Settings.standardExclusionType
  resolverClass := none
  deliveryClass := none
  protocol := .cas2
  service := some "not a url".toList
  serverName := none

/-- The gate that is set up from them. -/
def strayServiceGate : Gate :=
  .withOptions { service := some "not a url".toList }

theorem gate_strayServiceSettings :
    Setup.gate [] strayServiceSettings {} = .ok strayServiceGate := by
  refine bind_eq_ok_iff.mpr ⟨strayServiceGate.login, ?_, ?_⟩
  · exact mapError_eq_ok_iff.mpr (Gate.parse_withOptions _)
  · refine bind_eq_ok_iff.mpr ⟨none, rfl, ?_⟩
    refine bind_eq_ok_iff.mpr ⟨.standard, rfl, ?_⟩
    refine bind_eq_ok_iff.mpr ⟨.standard, rfl, ?_⟩
    exact mapError_eq_ok_iff.mpr (make_eq_ok_iff.mpr ⟨rfl, rfl⟩)

/-- Settings with a service that is no URL are accepted, and then a visit fails. -/
theorem accepted_settings_fail_at_stray_service :
    Setup.gate [] strayServiceSettings {} = .ok strayServiceGate ∧
    (strayServiceGate.evaluate Gate.homeRequest ⟨['m'], ['s']⟩ {}).result =
      .error (.request (.incomplete "not a url".toList)) := by
  refine ⟨gate_strayServiceSettings, ?_⟩
  have isHome : ∃ absolute,
      Url.Absolute.parse "http://app.example.org/home".toList = .ok absolute := ⟨_, rfl⟩
  rcases isHome with ⟨absolute, parsed⟩
  have fails := accepted_settings_fail_iff [] strayServiceSettings {} strayServiceGate
    gate_strayServiceSettings rfl nofun Gate.homeRequest "http://app.example.org/home".toList rfl
    absolute parsed ⟨['m'], ['s']⟩ {}
  apply (fails.1 _).mpr
  exact Or.inr ⟨_, ⟨⟨rfl, rfl⟩, Gate.stranger_homeRequest _ rfl, rfl⟩, rfl⟩

end Setup

end SignOnGate
