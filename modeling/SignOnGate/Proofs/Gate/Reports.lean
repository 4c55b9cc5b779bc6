import SignOnGate.Correlation
import SignOnGate.Gate.Process
import SignOnGate.Proofs.Gateway.Awaits

/-!
# What the reports of a gate depend on

A gate looks at a request in three ways only: it asks for the service URL, for the ticket and for
the access token. Requests that are alike in these have the same reports, up to the access token, as
long as the resolver does not look into the request by itself. This holds across two runs whose
minted values differ.
-/

namespace SignOnGate

/-- Results that agree when faults are not told apart both have the value, or both fail. -/
theorem Except.ok_or_error_of_toOption_eq {ε δ α : Type} {first : Except ε α} {second : Except δ α}
    (same : second.toOption = first.toOption) :
    (∃ value, first = .ok value ∧ second = .ok value) ∨
      ∃ fault other, first = .error fault ∧ second = .error other := by
  cases first with
  | error fault =>
      cases second with
      | error other => exact Or.inr ⟨fault, other, rfl, rfl⟩
      | ok value => cases same
  | ok value =>
      cases second with
      | error other => cases same
      | ok other =>
          cases same
          exact Or.inl ⟨value, rfl, rfl⟩

namespace Gateway

namespace Resolver

/--
The answers of a discreet resolver depend on the service URL and on what is remembered, not on the
rest of the request or on what is minted.
-/
structure Discreet (resolver : Resolver) : Prop where
  consume : ∀ (first second : Request) (serviceUrl : Text) (memory : Memory),
    resolver.consume second serviceUrl memory = resolver.consume first serviceUrl memory
  remember : ∀ (first second : Request) (serviceUrl : Text) (fresh other : Fresh) (memory : Memory),
    (resolver.remember second serviceUrl other memory).1.toOption =
      (resolver.remember first serviceUrl fresh memory).1.toOption

/-- The built-in resolvers are discreet. -/
theorem discreet_of_builtIn {resolver : Resolver} (builtIn : resolver.BuiltIn) :
    resolver.Discreet := by
  refine ⟨?_, ?_⟩
  · intro first second serviceUrl memory
    cases resolver with
    | custom className operations => exact absurd builtIn id
    | _ => rfl
  · intro first second serviceUrl fresh other memory
    rw [remember_result_eq builtIn second serviceUrl other fresh]
    obtain ⟨session?, shared⟩ := memory
    cases resolver with
    | session attemptsKey => cases session? <;> rfl
    | shared seconds keyStart => cases session? <;> rfl
    | forgetful => rfl
    | custom className operations => exact absurd builtIn id

end Resolver

end Gateway

/-- The event with another name for the access token that it reports. -/
def Event.renamed (rename : Text → Text) : Event → Event
  | tokenPresent token => tokenPresent (rename token)
  | event => event

namespace Gate

variable {gate : Gate} {rename : Text → Text} {first second : Request}

/-- Requests that a gate cannot tell apart but by their access tokens. -/
structure Alike (gate : Gate) (rename : Text → Text) (first second : Request) : Prop where
  serviceUrl : (gate.serviceUrl second).toOption = (gate.serviceUrl first).toOption
  ticket : gate.hasTicket second = gate.hasTicket first
  token : bearerToken? second = (bearerToken? first).map rename

/-- The redirect that an outcome leads to. -/
def Outcome.redirect? (outcome : Outcome Decision) : Option LoginRedirect :=
  outcome.result.toOption.bind Decision.redirect?

/-- Outcomes that report the same, up to the access token, and send the client to the same place. -/
structure Outcome.Matches (rename : Text → Text) (first second : Outcome Decision) : Prop where
  events : second.events = first.events.map (Event.renamed rename)
  redirect : second.redirect? = first.redirect?

theorem Outcome.Matches.after {first second : Outcome Decision} (same : Matches rename first second)
    {event : Event} (plain : event.renamed rename = event) :
    Matches rename (first.after event) (second.after event) := by
  refine ⟨?_, same.redirect⟩
  simp [Outcome.after, same.events, plain]

/-! ## Evaluation, layer by layer -/

theorem matches_depart (serviceUrl : Text) (memory other : Memory) :
    (gate.depart serviceUrl memory).Matches rename (gate.depart serviceUrl other) :=
  ⟨rfl, rfl⟩

/-- Two requests that are sent away with the same service URL are reported alike. -/
theorem matches_send (discreet : gate.options.resolver.Discreet) (first second : Request)
    (serviceUrl : Text) (fresh other : Fresh) (memory : Memory) :
    (gate.send first serviceUrl fresh memory).Matches rename
      (gate.send second serviceUrl other memory) := by
  have same := discreet.remember first second serviceUrl fresh other memory
  simp only [send]
  split
  · generalize gate.options.resolver.remember first serviceUrl fresh memory = kept at same ⊢
    generalize gate.options.resolver.remember second serviceUrl other memory = keptToo at same ⊢
    obtain ⟨answer, left⟩ := kept
    obtain ⟨answerToo, leftToo⟩ := keptToo
    rcases Except.ok_or_error_of_toOption_eq same with
      ⟨settled, rfl, rfl⟩ | ⟨fault, faultToo, rfl, rfl⟩
    · exact (matches_depart settled left leftToo).after rfl
    · exact ⟨rfl, rfl⟩
  · exact matches_depart serviceUrl memory memory

/-- Two strangers with the same service URL are reported alike, but for their tokens. -/
theorem matches_judgeStranger (discreet : gate.options.resolver.Discreet)
    (token : bearerToken? second = (bearerToken? first).map rename)
    {serviceUrl serviceUrlToo : Except Fault Text}
    (same : serviceUrlToo.toOption = serviceUrl.toOption) (fresh other : Fresh) (memory : Memory) :
    (gate.judgeStranger first serviceUrl fresh memory).Matches rename
      (gate.judgeStranger second serviceUrlToo other memory) := by
  simp only [judgeStranger, token]
  cases bearerToken? first with
  | some token => exact ⟨rfl, rfl⟩
  | none =>
      rcases Except.ok_or_error_of_toOption_eq same with
        ⟨known, rfl, rfl⟩ | ⟨fault, faultToo, rfl, rfl⟩
      · exact (matches_send discreet first second known fresh other memory).after rfl
      · exact ⟨rfl, rfl⟩

theorem matches_judgeSilently (discreet : gate.options.resolver.Discreet)
    (alike : gate.Alike rename first second) (fresh other : Fresh) (memory : Memory) :
    (gate.judgeSilently first fresh memory).Matches rename
      (gate.judgeSilently second other memory) := by
  rcases Except.ok_or_error_of_toOption_eq alike.serviceUrl with
    ⟨serviceUrl, readable, readableToo⟩ | ⟨fault, faultToo, unreadable, unreadableToo⟩
  · simp only [judgeSilently, readable, readableToo, discreet.consume first second, alike.ticket]
    split
    · exact ⟨rfl, rfl⟩
    · split
      · exact ⟨rfl, rfl⟩
      · split
        · exact ⟨rfl, rfl⟩
        · exact matches_judgeStranger discreet alike.token rfl fresh other _
  · simp only [judgeSilently, unreadable, unreadableToo]
    exact ⟨rfl, rfl⟩

theorem matches_judgeOpenly (discreet : gate.options.resolver.Discreet)
    (alike : gate.Alike rename first second) (fresh other : Fresh) (memory : Memory) :
    (gate.judgeOpenly first fresh memory).Matches rename
      (gate.judgeOpenly second other memory) := by
  simp only [judgeOpenly, alike.ticket]
  split
  · exact ⟨rfl, rfl⟩
  · exact matches_judgeStranger discreet alike.token alike.serviceUrl fresh other memory

/-- Alike requests are reported alike, whatever is minted for them. -/
theorem matches_evaluate (noExclusion : gate.options.exclusion = none)
    (discreet : gate.options.resolver.Discreet) (alike : gate.Alike rename first second)
    (fresh other : Fresh) (memory : Memory) :
    (gate.evaluate first fresh memory).Matches rename (gate.evaluate second other memory) := by
  have judged (request : Request) : gate.excludedUrl? request = .ok none := by
    simp [excludedUrl?, noExclusion]
  simp only [evaluate, judged]
  split
  · exact ⟨rfl, rfl⟩
  · split
    · exact matches_judgeSilently discreet alike fresh other memory
    · exact matches_judgeOpenly discreet alike fresh other memory

/-! ## Processing -/

/-- Processing adds a report of the redirect, whatever becomes of its delivery. -/
theorem events_process (gate : Gate) (request : Request) (fresh : Fresh) (memory : Memory)
    (response : Response) :
    (gate.process request fresh memory response).outcome.events =
      (gate.evaluate request fresh memory).events ++
        ((gate.evaluate request fresh memory).redirect?.map fun redirect =>
          Event.redirecting redirect.redirectUrl).toList := by
  rw [process]
  generalize gate.evaluate request fresh memory = outcome
  obtain ⟨result, memory, events⟩ := outcome
  match result with
  | .error fault => simp [Outcome.redirect?, Except.toOption]
  | .ok (.needsRedirect redirect) =>
      simp only
      split <;> rfl
  | .ok .excluded | .ok .authenticated | .ok (.ticketed _) | .ok (.gatewayed _) | .ok (.bearer _) =>
      simp [Outcome.redirect?, Except.toOption, Decision.redirect?]

theorem events_process_of_alike (noExclusion : gate.options.exclusion = none)
    (discreet : gate.options.resolver.Discreet) (alike : gate.Alike rename first second)
    (fresh other : Fresh) (memory : Memory) (response : Response) :
    (gate.process second other memory response).outcome.events =
      (gate.process first fresh memory response).outcome.events.map (Event.renamed rename) := by
  have same := matches_evaluate noExclusion discreet alike fresh other memory
  rw [events_process, events_process, same.events, same.redirect, List.map_append]
  cases (gate.evaluate first fresh memory).redirect? <;> rfl

/-- The rows of the log about a processed request: the message of each report, and the id. -/
def logRows (stack : Correlation.Stack) (processed : Processed) : List (Text × Option Text) :=
  (Correlation.records stack processed.outcome.events).map fun record =>
    (record.event.message, record.id)

theorem logRows_eq (stack : Correlation.Stack) (processed : Processed) :
    logRows stack processed =
      processed.outcome.events.map fun event => (event.message, Correlation.current? stack) := by
  rw [logRows, Correlation.records, List.map_map]
  rfl

end Gate

end SignOnGate
