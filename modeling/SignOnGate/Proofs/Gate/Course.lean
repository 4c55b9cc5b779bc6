import Mathlib.Tactic.Common
import SignOnGate.Gate.Evaluate

/-!
# The courses of an evaluation

Everything an evaluation can do, once. `Course` has one rule for each way through an evaluation; a
rule names all the guards that lead there, and its outcome is the whole outcome: the result, what is
remembered, and the reports. Every evaluation takes a course, so a property of evaluations is shown
by going through the rules, and nobody has to open `evaluate` again.
-/

namespace SignOnGate

namespace Gate

/-- A request is consulting when its URL needs a login and its session holds no assertion. -/
structure Consults (gate : Gate) (request : Request) (memory : Memory) : Prop where
  judged : gate.excludedUrl? request = .ok none
  noAssertion : gate.hasAssertion memory = false

/-- A request is a stranger's when it brings neither a ticket nor an access token. -/
structure Stranger (gate : Gate) (request : Request) : Prop where
  noTicket : gate.hasTicket request = false
  noToken : bearerToken? request = none

/-- The ways through an evaluation, each with what leads there and what it comes to. -/
inductive Course (gate : Gate) (request : Request) (fresh : Fresh) (memory : Memory) :
    Outcome Decision → Prop where
  | exclusionFails (fault : Fault) (fails : gate.excludedUrl? request = .error fault) :
      Course gate request fresh memory { result := .error fault, memory }
  | excluded (url : Text) (accepted : gate.excludedUrl? request = .ok (some url)) :
      Course gate request fresh memory
        { result := .ok .excluded, memory, events := [.excluded url] }
  | authenticated (judged : gate.excludedUrl? request = .ok none)
      (assertion : gate.hasAssertion memory = true) :
      Course gate request fresh memory { result := .ok .authenticated, memory }
  | silentlyUnreadable (consults : gate.Consults request memory)
      (silent : gate.options.gateway = true) (fault : Fault)
      (unreadable : gate.serviceUrl request = .error fault) :
      Course gate request fresh memory { result := .error fault, memory }
  | consumeFails (consults : gate.Consults request memory)
      (silent : gate.options.gateway = true) (serviceUrl : Text)
      (readable : gate.serviceUrl request = .ok serviceUrl) (fault : Gateway.Fault)
      (consumed : Memory)
      (consume : gate.options.resolver.consume request serviceUrl memory =
        (.error fault, consumed)) :
      Course gate request fresh memory { result := .error (.attempt fault), memory := consumed }
  | silentlyTicketed (consults : gate.Consults request memory)
      (silent : gate.options.gateway = true) (serviceUrl : Text)
      (readable : gate.serviceUrl request = .ok serviceUrl) (returning : Bool) (consumed : Memory)
      (consume : gate.options.resolver.consume request serviceUrl memory =
        (.ok returning, consumed))
      (ticket : gate.hasTicket request = true) :
      Course gate request fresh memory
        { result := .ok (.ticketed (some serviceUrl)), memory := consumed,
          events := [.ticketPresent] }
  | gatewayed (consults : gate.Consults request memory)
      (silent : gate.options.gateway = true) (serviceUrl : Text)
      (readable : gate.serviceUrl request = .ok serviceUrl) (consumed : Memory)
      (consume : gate.options.resolver.consume request serviceUrl memory = (.ok true, consumed))
      (noTicket : gate.hasTicket request = false) :
      Course gate request fresh memory
        { result := .ok (.gatewayed serviceUrl), memory := consumed,
          events := [.returning serviceUrl] }
  | silentlyBearing (consults : gate.Consults request memory)
      (silent : gate.options.gateway = true) (serviceUrl : Text)
      (readable : gate.serviceUrl request = .ok serviceUrl) (consumed : Memory)
      (consume : gate.options.resolver.consume request serviceUrl memory = (.ok false, consumed))
      (noTicket : gate.hasTicket request = false) (token : Text)
      (bearing : bearerToken? request = some token) :
      Course gate request fresh memory
        { result := .ok (.bearer token), memory := consumed, events := [.tokenPresent token] }
  | rememberFails (consults : gate.Consults request memory)
      (silent : gate.options.gateway = true) (serviceUrl : Text)
      (readable : gate.serviceUrl request = .ok serviceUrl) (consumed : Memory)
      (consume : gate.options.resolver.consume request serviceUrl memory = (.ok false, consumed))
      (stranger : gate.Stranger request) (fault : Gateway.Fault) (left : Memory)
      (remember : gate.options.resolver.remember request serviceUrl fresh consumed =
        (.error fault, left)) :
      Course gate request fresh memory
        { result := .error (.attempt fault), memory := left,
          events := [.loginNeeded, .storingAttempt] }
  | silentlySent (consults : gate.Consults request memory)
      (silent : gate.options.gateway = true) (serviceUrl : Text)
      (readable : gate.serviceUrl request = .ok serviceUrl) (consumed : Memory)
      (consume : gate.options.resolver.consume request serviceUrl memory = (.ok false, consumed))
      (stranger : gate.Stranger request) (settled : Text) (left : Memory)
      (remember : gate.options.resolver.remember request serviceUrl fresh consumed =
        (.ok settled, left)) :
      Course gate request fresh memory
        { result := gate.redirectWith settled, memory := left,
          events := [.loginNeeded, .storingAttempt, .serviceUrlConstructed settled] }
  | openlyTicketed (consults : gate.Consults request memory)
      (notSilent : gate.options.gateway = false) (ticket : gate.hasTicket request = true) :
      Course gate request fresh memory
        { result := .ok (.ticketed none), memory, events := [.ticketPresent] }
  | openlyBearing (consults : gate.Consults request memory)
      (notSilent : gate.options.gateway = false) (noTicket : gate.hasTicket request = false)
      (token : Text) (bearing : bearerToken? request = some token) :
      Course gate request fresh memory
        { result := .ok (.bearer token), memory, events := [.tokenPresent token] }
  | openlyUnreadable (consults : gate.Consults request memory)
      (notSilent : gate.options.gateway = false) (stranger : gate.Stranger request) (fault : Fault)
      (unreadable : gate.serviceUrl request = .error fault) :
      Course gate request fresh memory
        { result := .error fault, memory, events := [.loginNeeded] }
  | openlySent (consults : gate.Consults request memory)
      (notSilent : gate.options.gateway = false) (stranger : gate.Stranger request)
      (serviceUrl : Text) (readable : gate.serviceUrl request = .ok serviceUrl) :
      Course gate request fresh memory
        { result := gate.redirectWith serviceUrl, memory,
          events := [.loginNeeded, .serviceUrlConstructed serviceUrl] }

variable (gate : Gate) (request : Request) (fresh : Fresh) (memory : Memory)

/-- The courses of a consulting visit where attempts are silent. -/
theorem judgeSilently_course (consults : gate.Consults request memory)
    (silent : gate.options.gateway = true) :
    Course gate request fresh memory (gate.judgeSilently request fresh memory) := by
  rw [judgeSilently]
  split
  · rename_i fault unreadable
    exact .silentlyUnreadable consults silent fault unreadable
  · rename_i serviceUrl readable
    split
    · rename_i fault consumed consume
      exact .consumeFails consults silent serviceUrl readable fault consumed consume
    · rename_i returning consumed consume
      cases ticket : gate.hasTicket request with
      | true =>
          exact .silentlyTicketed consults silent serviceUrl readable returning consumed consume
            ticket
      | false =>
          cases returning with
          | true =>
              exact .gatewayed consults silent serviceUrl readable consumed consume ticket
          | false =>
              simp only [Bool.false_eq_true, if_false, judgeStranger]
              split
              · rename_i token bearing
                exact .silentlyBearing consults silent serviceUrl readable consumed consume ticket
                  token bearing
              · rename_i noToken
                simp only [send, silent, if_true]
                split
                · rename_i fault left remember
                  exact .rememberFails consults silent serviceUrl readable consumed consume
                    ⟨ticket, noToken⟩ fault left remember
                · rename_i settled left remember
                  exact .silentlySent consults silent serviceUrl readable consumed consume
                    ⟨ticket, noToken⟩ settled left remember

/-- The courses of a consulting visit where attempts are not silent. -/
theorem judgeOpenly_course (consults : gate.Consults request memory)
    (notSilent : gate.options.gateway = false) :
    Course gate request fresh memory (gate.judgeOpenly request fresh memory) := by
  rw [judgeOpenly]
  cases ticket : gate.hasTicket request with
  | true => exact .openlyTicketed consults notSilent ticket
  | false =>
      simp only [Bool.false_eq_true, if_false, judgeStranger]
      split
      · rename_i token bearing
        exact .openlyBearing consults notSilent ticket token bearing
      · rename_i noToken
        split
        · rename_i fault unreadable
          exact .openlyUnreadable consults notSilent ⟨ticket, noToken⟩ fault unreadable
        · rename_i serviceUrl readable
          simp only [send, notSilent, Bool.false_eq_true, if_false]
          exact .openlySent consults notSilent ⟨ticket, noToken⟩ serviceUrl readable

/-- Every evaluation takes one of the courses. -/
theorem evaluate_course :
    Course gate request fresh memory (gate.evaluate request fresh memory) := by
  rw [evaluate]
  split
  · rename_i fault fails
    exact .exclusionFails fault fails
  · rename_i url accepted
    exact .excluded url accepted
  · rename_i judged
    cases assertion : gate.hasAssertion memory with
    | true => exact .authenticated judged assertion
    | false =>
        cases silent : gate.options.gateway with
        | true => exact judgeSilently_course gate request fresh memory ⟨judged, assertion⟩ silent
        | false => exact judgeOpenly_course gate request fresh memory ⟨judged, assertion⟩ silent

variable {gate request fresh memory} {outcome : Outcome Decision}

/-- A course is taken whenever its guards hold. -/
theorem Course.evaluate_eq (course : Course gate request fresh memory outcome) :
    gate.evaluate request fresh memory = outcome := by
  cases course with
  | exclusionFails fault fails => simp [evaluate, fails]
  | excluded url accepted => simp [evaluate, accepted]
  | authenticated judged assertion => simp [evaluate, judged, assertion]
  | silentlyUnreadable consults silent fault unreadable =>
      simp [evaluate, consults.judged, consults.noAssertion, silent, judgeSilently, unreadable]
  | consumeFails consults silent serviceUrl readable fault consumed consume =>
      simp [evaluate, consults.judged, consults.noAssertion, silent, judgeSilently, readable,
        consume]
  | silentlyTicketed consults silent serviceUrl readable returning consumed consume ticket =>
      simp [evaluate, consults.judged, consults.noAssertion, silent, judgeSilently, readable,
        consume, ticket]
  | gatewayed consults silent serviceUrl readable consumed consume noTicket =>
      simp [evaluate, consults.judged, consults.noAssertion, silent, judgeSilently, readable,
        consume, noTicket]
  | silentlyBearing consults silent serviceUrl readable consumed consume noTicket token bearing =>
      simp [evaluate, consults.judged, consults.noAssertion, silent, judgeSilently, readable,
        consume, noTicket, judgeStranger, bearing]
  | rememberFails consults silent serviceUrl readable consumed consume stranger fault left
      remember =>
      simp [evaluate, consults.judged, consults.noAssertion, silent, judgeSilently, readable,
        consume, stranger.noTicket, judgeStranger, stranger.noToken, send, remember, Outcome.after]
  | silentlySent consults silent serviceUrl readable consumed consume stranger settled left
      remember =>
      simp [evaluate, consults.judged, consults.noAssertion, silent, judgeSilently, readable,
        consume, stranger.noTicket, judgeStranger, stranger.noToken, send, remember, depart,
        Outcome.after]
  | openlyTicketed consults notSilent ticket =>
      simp [evaluate, consults.judged, consults.noAssertion, notSilent, judgeOpenly, ticket]
  | openlyBearing consults notSilent noTicket token bearing =>
      simp [evaluate, consults.judged, consults.noAssertion, notSilent, judgeOpenly, noTicket,
        judgeStranger, bearing]
  | openlyUnreadable consults notSilent stranger fault unreadable =>
      simp [evaluate, consults.judged, consults.noAssertion, notSilent, judgeOpenly,
        stranger.noTicket, judgeStranger, stranger.noToken, unreadable]
  | openlySent consults notSilent stranger serviceUrl readable =>
      simp [evaluate, consults.judged, consults.noAssertion, notSilent, judgeOpenly,
        stranger.noTicket, judgeStranger, stranger.noToken, readable, send, depart, Outcome.after]

/-- Only a consulting request changes what is remembered. -/
theorem memory_evaluate_of_not_consults (notConsults : ¬gate.Consults request memory) :
    (gate.evaluate request fresh memory).memory = memory := by
  have course := evaluate_course gate request fresh memory
  generalize gate.evaluate request fresh memory = outcome at course ⊢
  cases course with
  | exclusionFails fault fails => rfl
  | excluded url accepted => rfl
  | authenticated judged assertion => rfl
  | _ => exact absurd ‹gate.Consults request memory› notConsults

/-- A gate with the given options, and its login service on a host of three labels. -/
def withOptions (options : GateOptions) : Gate where
  login := {
    firstPart := "sso.example".toList
    lastPart := "org".toList
    fullUrl := "https://sso.example.org/cas/login".toList }
  options
  firstPart_ne_nil := by decide
  lastPart_ne_nil := by decide

theorem parse_withOptions (options : GateOptions) :
    LoginUrl.parse "https://sso.example.org/cas/login".toList =
      .ok (withOptions options).login := by
  have parsed : LoginUrl.parse "https://sso.example.org/cas/login".toList =
      .ok ⟨"sso.example".toList, "org".toList, "https://sso.example.org/cas/login".toList⟩ := by
    decide +kernel
  exact parsed

/-- A gate that first attempts the login silently. -/
def silentGate : Gate :=
  .withOptions { gateway := true }

/-- A request that brings nothing but its URL. -/
def homeRequest : Request :=
  .ofFields "http://app.example.org/home".toList [] none

theorem stranger_homeRequest (options : GateOptions) (protocol : options.protocol = .cas2) :
    (withOptions options).Stranger homeRequest := by
  have noTicket : homeRequest.parameter? Protocol.cas2.artifactParameter = none := by
    decide +kernel
  refine ⟨?_, by decide +kernel⟩
  have same : (withOptions options).options.protocol = .cas2 := protocol
  rw [hasTicket, same, noTicket]

end Gate

end SignOnGate
