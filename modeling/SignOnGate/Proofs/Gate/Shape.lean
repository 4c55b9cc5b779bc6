import SignOnGate.Proofs.Gate.Course
import SignOnGate.Proofs.Gate.Service

/-!
# What a decision carries

A redirect goes with the outcome that the client is sent away, an access token with the outcome that
it brings one. A service URL goes with the outcomes for which one had to be computed, but for a
client that brings a token where attempts are silent: its service URL is computed and then dropped.
-/

namespace SignOnGate

namespace Decision

/-- The outcome of an evaluation. -/
inductive State where
  | excluded
  | authenticated
  | ticketed
  | gatewayed
  | bearerToken
  | needsRedirect
  deriving Repr, DecidableEq

/-- The name of an outcome. -/
def State.name : State → Text
  | excluded => "excluded".toList
  | authenticated => "authenticated".toList
  | ticketed => "ticketed".toList
  | gatewayed => "gatewayed".toList
  | bearerToken => "bearer_token".toList
  | needsRedirect => "needs_redirect".toList

theorem State.name_injective : Function.Injective State.name := by
  intro first second same
  cases first <;> cases second <;> first | rfl | exact absurd same (by decide)

/-- The outcome that a decision stands for. -/
def state : Decision → State
  | .excluded => .excluded
  | .authenticated => .authenticated
  | .ticketed _ => .ticketed
  | .gatewayed _ => .gatewayed
  | .bearer _ => .bearerToken
  | .needsRedirect _ => .needsRedirect

theorem stateName_eq (decision : Decision) : decision.stateName = decision.state.name := by
  cases decision <;> rfl

/--
A decision is shown under the name of its outcome. Redirect and access token are there in the
outcomes that they belong to, and in no others.
-/
structure CarriesOwn (decision : Decision) : Prop where
  shown_iff : ∀ state : State, decision.stateName = state.name ↔ decision.state = state
  redirect_iff : decision.redirect?.isSome = true ↔ decision.state = .needsRedirect
  stopped_iff : decision.passesThrough = false ↔ decision.state = .needsRedirect
  token_iff : decision.bearerToken?.isSome = true ↔ decision.state = .bearerToken

theorem carriesOwn (decision : Decision) : decision.CarriesOwn := by
  constructor
  · intro state
    rw [stateName_eq, State.name_injective.eq_iff]
  all_goals cases decision <;> simp [redirect?, passesThrough, bearerToken?, state]

/-- The outcomes behind which stands a service URL. -/
def FollowsServiceUrl (silent : Bool) (decision : Decision) : Prop :=
  decision.state = .needsRedirect ∨
    silent = true ∧ decision.state ≠ .excluded ∧ decision.state ≠ .authenticated

end Decision

namespace Gate

/--
An evaluation has to compute the service URL to look for an attempt, or to send a stranger off.
-/
def Computes (gate : Gate) (request : Request) (memory : Memory) : Prop :=
  gate.Consults request memory ∧ (gate.options.gateway = true ∨ gate.Stranger request)

/-- The decisions that an evaluation comes to, by whether it has computed a service URL. -/
inductive Shape (silent : Bool) (computed : Prop) : Decision → Prop where
  | excluded (notComputed : ¬computed) : Shape silent computed .excluded
  | authenticated (notComputed : ¬computed) : Shape silent computed .authenticated
  | silentlyTicketed (isSilent : silent = true) (isComputed : computed) (serviceUrl : Text) :
      Shape silent computed (.ticketed (some serviceUrl))
  | gatewayed (isSilent : silent = true) (isComputed : computed) (serviceUrl : Text) :
      Shape silent computed (.gatewayed serviceUrl)
  | silentlyBearing (isSilent : silent = true) (isComputed : computed) (token : Text) :
      Shape silent computed (.bearer token)
  | openlyTicketed (notSilent : silent = false) (notComputed : ¬computed) :
      Shape silent computed (.ticketed none)
  | openlyBearing (notSilent : silent = false) (notComputed : ¬computed) (token : Text) :
      Shape silent computed (.bearer token)
  | sent (isComputed : computed) (redirect : LoginRedirect) :
      Shape silent computed (.needsRedirect redirect)

variable {gate : Gate} {request : Request} {fresh : Fresh} {memory : Memory} {decision : Decision}

theorem not_computes_of_not_stranger (notSilent : gate.options.gateway = false)
    (notStranger : ¬gate.Stranger request) : ¬gate.Computes request memory := by
  rintro ⟨-, silent | stranger⟩
  · rw [notSilent] at silent
    cases silent
  · exact notStranger stranger

/-- Every decision has a shape that tells whether a service URL was computed for it. -/
theorem shape_of_decided (decided : (gate.evaluate request fresh memory).result = .ok decision) :
    Shape gate.options.gateway (gate.Computes request memory) decision := by
  have sent {serviceUrl : Text} (computes : gate.Computes request memory)
      (redirected : gate.redirectWith serviceUrl = .ok decision) :
      Shape gate.options.gateway (gate.Computes request memory) decision := by
    rcases redirectWith_eq_ok redirected with ⟨redirect, rfl⟩
    exact .sent computes redirect
  have course := evaluate_course gate request fresh memory
  generalize gate.evaluate request fresh memory = outcome at course decided
  cases course with
  | excluded url accepted =>
      cases decided
      refine .excluded ?_
      rintro ⟨consults, -⟩
      rw [consults.judged] at accepted
      cases accepted
  | authenticated judged assertion =>
      cases decided
      refine .authenticated ?_
      rintro ⟨consults, -⟩
      rw [consults.noAssertion] at assertion
      cases assertion
  | silentlyTicketed consults silent serviceUrl readable returning consumed consume ticket =>
      cases decided
      exact .silentlyTicketed silent ⟨consults, Or.inl silent⟩ serviceUrl
  | gatewayed consults silent serviceUrl readable consumed consume noTicket =>
      cases decided
      exact .gatewayed silent ⟨consults, Or.inl silent⟩ serviceUrl
  | silentlyBearing consults silent serviceUrl readable consumed consume noTicket token bearing =>
      cases decided
      exact .silentlyBearing silent ⟨consults, Or.inl silent⟩ token
  | silentlySent consults silent serviceUrl readable consumed consume stranger settled left
      remember =>
      exact sent ⟨consults, Or.inl silent⟩ decided
  | openlyTicketed consults notSilent ticket =>
      cases decided
      refine .openlyTicketed notSilent (not_computes_of_not_stranger notSilent ?_)
      rintro ⟨noTicket, -⟩
      rw [noTicket] at ticket
      cases ticket
  | openlyBearing consults notSilent noTicket token bearing =>
      cases decided
      refine .openlyBearing notSilent (not_computes_of_not_stranger notSilent ?_) token
      rintro ⟨-, noToken⟩
      rw [noToken] at bearing
      cases bearing
  | openlySent consults notSilent stranger serviceUrl readable =>
      exact sent ⟨consults, Or.inr stranger⟩ decided
  | _ => cases decided

/-- Behind a decision for which a service URL had to be computed, there is one. -/
theorem exists_serviceUrl (decided : (gate.evaluate request fresh memory).result = .ok decision)
    (computes : gate.Computes request memory) :
    ∃ serviceUrl, gate.serviceUrl request = .ok serviceUrl := by
  rcases computes with ⟨consults, reads⟩
  cases served : gate.serviceUrl request with
  | ok serviceUrl => exact ⟨serviceUrl, rfl⟩
  | error fault =>
      cases silent : gate.options.gateway with
      | true =>
          rw [(Course.silentlyUnreadable consults silent fault served).evaluate_eq] at decided
          cases decided
      | false =>
          have stranger := reads.resolve_left (by rw [silent]; exact Bool.false_ne_true)
          rw [(Course.openlyUnreadable consults silent stranger fault served).evaluate_eq]
            at decided
          cases decided

theorem Shape.followsServiceUrl_iff {silent : Bool} {computed : Prop}
    (shape : Shape silent computed decision) : decision.FollowsServiceUrl silent ↔ computed := by
  cases shape <;> simp_all [Decision.FollowsServiceUrl, Decision.state]

theorem Shape.hasServiceUrl_iff {silent : Bool} {computed : Prop}
    (shape : Shape silent computed decision) :
    decision.serviceUrl?.isSome = true ↔ computed ∧ decision.state ≠ .bearerToken := by
  cases shape <;> simp_all [Decision.serviceUrl?, Decision.state]

/--
Whatever a gate decides, redirect and access token are there exactly in the outcomes that they
belong to, and the service URL had to be computed exactly for a redirect and, where attempts are
silent, for all outcomes but the first two. The decision has the service URL exactly when it was
computed, unless attempts are silent and the client brings an access token: then the URL was
computed, and dropped.
-/
theorem serviceUrl_is_kept_iff (gate : Gate) (request : Request) (fresh : Fresh) (memory : Memory)
    (decision : Decision) (decided : (gate.evaluate request fresh memory).result = .ok decision) :
    decision.CarriesOwn ∧
    (gate.Computes request memory ↔ decision.FollowsServiceUrl gate.options.gateway) ∧
    (gate.Computes request memory → ∃ serviceUrl, gate.serviceUrl request = .ok serviceUrl) ∧
    ((decision.serviceUrl?.isSome = true ↔ gate.Computes request memory) ↔
      ¬(gate.options.gateway = true ∧ decision.state = .bearerToken)) := by
  have shape := shape_of_decided decided
  refine ⟨decision.carriesOwn, shape.followsServiceUrl_iff.symm, exists_serviceUrl decided, ?_⟩
  rw [shape.hasServiceUrl_iff, ← shape.followsServiceUrl_iff, Decision.FollowsServiceUrl]
  cases decision.state <;> simp

/-- The request of a client that brings an access token. -/
def bearingRequest : Request :=
  .ofFields "http://app.example.org/home".toList [("Authorization".toList, "Bearer t".toList)] none

/-- A client with an access token meets a gate with silent attempts: its service URL is dropped. -/
theorem serviceUrl_is_dropped_for_bearer :
    (silentGate.evaluate bearingRequest ⟨['m'], ['s']⟩ { session := some .empty }).result =
      .ok (.bearer ['t']) ∧
    silentGate.Computes bearingRequest { session := some .empty } ∧
    (Decision.bearer ['t']).FollowsServiceUrl true ∧
    (Decision.bearer ['t']).serviceUrl? = none ∧
    ¬((Decision.bearer ['t']).serviceUrl?.isSome = true ↔
      silentGate.Computes bearingRequest { session := some .empty }) := by
  have decided : (silentGate.evaluate bearingRequest ⟨['m'], ['s']⟩
      { session := some .empty }).result = .ok (.bearer ['t']) := by
    decide +kernel
  rcases serviceUrl_is_kept_iff silentGate bearingRequest ⟨['m'], ['s']⟩ { session := some .empty }
    (.bearer ['t']) decided with ⟨-, computes_iff, -, kept_iff⟩
  have follows : (Decision.bearer ['t']).FollowsServiceUrl true := Or.inr ⟨rfl, nofun, nofun⟩
  exact ⟨decided, computes_iff.mpr follows, follows, rfl, fun kept => kept_iff.mp kept ⟨rfl, rfl⟩⟩

end Gate

end SignOnGate
