import SignOnGate.Proofs.Gate.Course
import SignOnGate.Proofs.Gate.Service
import SignOnGate.Proofs.Gateway.Damaged

/-!
# Where the faults of an evaluation come from

A fault of the request is an answer to the client: its URL, or the service URL made from it, is no
absolute URL, or it has no session for a silent attempt. Every other fault escapes. This file traces
each fault of an evaluation to its cause, for gates without plugins whose login URL was parsed.

The one cause that lies in the session is `MeetsDamage`. Consuming passes over a stored value that
is no map, remembering reads it as pairs, and a value that is set and cannot be read so ends the
visit.
-/

namespace SignOnGate

namespace Exclusion

/-- The rules that are no plugins. -/
def BuiltIn : Exclusion → Prop
  | .custom _ _ => False
  | _ => True

end Exclusion

namespace Gate

open Gateway

/-- The faults that are reported to the client as faults of its request. -/
inductive Fault.OfRequest : Fault → Prop where
  | rejected (rejection : Url.Rejection) : OfRequest (.request rejection)
  | sessionRequired (url : Text) : OfRequest (.attempt (.sessionRequired url))

/-- The faults of a request whose URL cannot be put together. -/
inductive Fault.Unreadable (request : Request) : Fault → Prop where
  | url (cause : UnreadableUrl) (noUrl : request.url = .error cause) :
      Unreadable request (.unreadable cause)
  | attempt (cause : UnreadableUrl) (noUrl : request.url = .error cause) :
      Unreadable request (.attempt (.unreadable cause))

/-- The pattern that excludes URLs has no answer for the URL of a request. -/
structure HasNoAnswer (gate : Gate) (request : Request) : Prop where
  unanswered : ∃ url pattern, request.url = .ok url ∧
    gate.options.exclusion = some (.pattern pattern) ∧ pattern.accepts? url = none

/-- A visit comes as far as keeping an attempt, and the attempts of its session are damaged. -/
structure MeetsDamage (gate : Gate) (attemptsKey : Text) (request : Request) (memory : Memory)
    (damage : DamagedAttempts) : Prop where
  consults : gate.Consults request memory
  silent : gate.options.gateway = true
  stranger : gate.Stranger request
  readable : ∃ serviceUrl, gate.serviceUrl request = .ok serviceUrl
  damaged : ∃ current, memory.session = some current ∧
    Attempts.ofSession current attemptsKey = .error damage

/-- A stranger cannot be sent away, because its service URL is rejected. -/
structure CannotSend (gate : Gate) (request : Request) (memory : Memory) (serviceUrl : Text)
    (rejection : Url.Rejection) : Prop where
  consults : gate.Consults request memory
  stranger : gate.Stranger request
  rejected : Url.Absolute.parse serviceUrl = .error rejection

/-- The causes of a fault, at a gate that keeps its attempts in the session. -/
inductive Fault.Caused (gate : Gate) (attemptsKey : Text) (request : Request) (memory : Memory) :
    Fault → Prop where
  | request {fault : Fault} (ofRequest : fault.OfRequest) :
      Caused gate attemptsKey request memory fault
  | unreadable {fault : Fault} (unreadable : fault.Unreadable request) :
      Caused gate attemptsKey request memory fault
  | noAnswer (unanswered : gate.HasNoAnswer request) :
      Caused gate attemptsKey request memory (.escaped .noAnswer)
  | damage (damage : DamagedAttempts)
      (meets : gate.MeetsDamage attemptsKey request memory damage) :
      Caused gate attemptsKey request memory (.attempt (.damaged damage))

variable {gate : Gate} {request : Request} {fresh : Fresh} {memory : Memory} {fault : Fault}

theorem HasNoAnswer.excludedUrl? (unanswered : gate.HasNoAnswer request) :
    gate.excludedUrl? request = .error (.escaped .noAnswer) := by
  rcases unanswered with ⟨url, pattern, hasUrl, rule, silence⟩
  simp [Gate.excludedUrl?, rule, urlOf, hasUrl, Except.mapError, Exclusion.accepts, silence]

/-- Looking for an exclusion fails when the request has no URL, or a pattern no answer. -/
theorem excludedUrl?_eq_error
    (builtIn : ∀ exclusion, gate.options.exclusion = some exclusion → exclusion.BuiltIn)
    (failed : gate.excludedUrl? request = .error fault) :
    fault.Unreadable request ∨ (gate.HasNoAnswer request ∧ fault = .escaped .noAnswer) := by
  rw [Gate.excludedUrl?] at failed
  split at failed
  · cases failed
  · rename_i exclusion rule
    cases hasUrl : request.url with
    | error cause =>
        simp only [urlOf, hasUrl, Except.mapError, Except.error.injEq] at failed
        rw [← failed]
        exact Or.inl (.url cause hasUrl)
    | ok url =>
        simp only [urlOf, hasUrl, Except.mapError] at failed
        cases exclusion with
        | exact expected => simp [Exclusion.accepts] at failed
        | contains part => simp [Exclusion.accepts] at failed
        | pattern pattern =>
            cases answer : pattern.accepts? url with
            | none =>
                simp only [Exclusion.accepts, answer, Except.error.injEq] at failed
                exact Or.inr ⟨⟨url, pattern, hasUrl, rule, answer⟩, failed.symm⟩
            | some accepted => simp [Exclusion.accepts, answer] at failed
        | custom className accepts => exact absurd (builtIn _ rule) id

/-- A missing service URL is the fault of the request. -/
theorem serviceUrl_eq_error (failed : gate.serviceUrl request = .error fault) :
    fault.OfRequest ∨ fault.Unreadable request := by
  rcases mapError_eq_error_iff.mp failed with ⟨inner, notConstructed, rfl⟩
  rcases ServiceUrl.construct_eq_error notConstructed with
    ⟨cause, hasNoUrl, rfl⟩ | ⟨rejection, rfl⟩
  · exact Or.inr (.url cause hasNoUrl)
  · exact Or.inl (.rejected rejection)

theorem withoutSession_eq (request : Request) :
    Fault.OfRequest (.attempt (Resolver.withoutSession request)) ∨
      Fault.Unreadable request (.attempt (Resolver.withoutSession request)) := by
  rw [Resolver.withoutSession]
  split
  · rename_i url hasUrl
    exact Or.inl (.sessionRequired url)
  · rename_i cause noUrl
    exact Or.inr (.attempt cause noUrl)

/-- A visit that meets damage fails by it, with anything minted. -/
theorem MeetsDamage.evaluate {attemptsKey : Text} {damage : DamagedAttempts}
    (resolver : gate.options.resolver = .session attemptsKey)
    (meets : gate.MeetsDamage attemptsKey request memory damage) :
    (gate.evaluate request fresh memory).result = .error (.attempt (.damaged damage)) := by
  rcases meets.readable with ⟨serviceUrl, readable⟩
  rcases meets.damaged with ⟨current, present, damaged⟩
  rcases Resolver.of_damaged present damaged request serviceUrl fresh with ⟨consume, remember⟩
  rw [← resolver] at consume remember
  rw [(Course.rememberFails meets.consults meets.silent serviceUrl readable memory consume
    meets.stranger (.damaged damage) memory remember).evaluate_eq]

/-- A gate that makes no silent attempts fails for want of an answer or of a redirect only. -/
theorem evaluate_eq_error_iff_of_not_silent (login : ∃ text, LoginUrl.parse text = .ok gate.login)
    (builtIn : ∀ exclusion, gate.options.exclusion = some exclusion → exclusion.BuiltIn)
    (notSilent : gate.options.gateway = false) {url : Text} (hasUrl : request.url = .ok url)
    {serviceUrl : Text} (readable : gate.serviceUrl request = .ok serviceUrl) :
    (gate.evaluate request fresh memory).result = .error fault ↔
      (gate.HasNoAnswer request ∧ fault = .escaped .noAnswer) ∨
        ∃ rejection, gate.CannotSend request memory serviceUrl rejection ∧
          fault = .request rejection := by
  constructor
  · intro failed
    have course := evaluate_course gate request fresh memory
    generalize gate.evaluate request fresh memory = outcome at course failed
    cases course with
    | exclusionFails other fails =>
        cases failed
        rcases excludedUrl?_eq_error builtIn fails with unreadable | unanswered
        · rcases unreadable with ⟨cause, noUrl⟩ | ⟨cause, noUrl⟩ <;> simp [hasUrl] at noUrl
        · exact Or.inl unanswered
    | openlyUnreadable consults _ stranger other unreadable =>
        rw [readable] at unreadable
        cases unreadable
    | openlySent consults _ stranger served servedEq =>
        rw [readable] at servedEq
        cases servedEq
        rcases (redirectWith_eq_error_iff login serviceUrl).mp failed with
          ⟨rejection, rejected, rfl⟩
        exact Or.inr ⟨rejection, ⟨consults, stranger, rejected⟩, rfl⟩
    | silentlyUnreadable _ silent => simp [notSilent] at silent
    | consumeFails _ silent => simp [notSilent] at silent
    | rememberFails _ silent => simp [notSilent] at silent
    | silentlySent _ silent => simp [notSilent] at silent
    | _ => cases failed
  · rintro (⟨unanswered, rfl⟩ | ⟨rejection, cannotSend, rfl⟩)
    · rw [(Course.exclusionFails _ unanswered.excludedUrl?).evaluate_eq]
    · rw [(Course.openlySent cannotSend.consults notSilent cannotSend.stranger serviceUrl
        readable).evaluate_eq]
      exact (redirectWith_eq_error_iff login serviceUrl).mpr
        ⟨rejection, cannotSend.rejected, rfl⟩

/-- Where a fault arises at a gate without plugins: in reading the request, or in remembering. -/
inductive Fault.Arises (gate : Gate) (request : Request) (fresh : Fresh) (memory : Memory) :
    Fault → Prop where
  | request {fault : Fault} (ofRequest : fault.OfRequest) :
      Arises gate request fresh memory fault
  | unreadable {fault : Fault} (unreadable : fault.Unreadable request) :
      Arises gate request fresh memory fault
  | noAnswer (unanswered : gate.HasNoAnswer request) :
      Arises gate request fresh memory (.escaped .noAnswer)
  | remember (consults : gate.Consults request memory) (silent : gate.options.gateway = true)
      (stranger : gate.Stranger request) (serviceUrl : Text)
      (readable : gate.serviceUrl request = .ok serviceUrl) (consumed : Memory)
      (consume : gate.options.resolver.consume request serviceUrl memory = (.ok false, consumed))
      (fault : Gateway.Fault) (left : Memory)
      (remember : gate.options.resolver.remember request serviceUrl fresh consumed =
        (.error fault, left)) :
      Arises gate request fresh memory (.attempt fault)

/-- Reading, consuming and redirecting add no fault of their own. -/
theorem arises_of_evaluate (login : ∃ text, LoginUrl.parse text = .ok gate.login)
    (noPlugin : ∀ exclusion, gate.options.exclusion = some exclusion → exclusion.BuiltIn)
    (builtIn : gate.options.resolver.BuiltIn)
    (failed : (gate.evaluate request fresh memory).result = .error fault) :
    fault.Arises gate request fresh memory := by
  have ofServiceUrl (unreadable : gate.serviceUrl request = .error fault) :
      fault.Arises gate request fresh memory := by
    rcases serviceUrl_eq_error unreadable with ofRequest | unreadable
    · exact .request ofRequest
    · exact .unreadable unreadable
  have ofRedirect {serviceUrl : Text} (rejected : gate.redirectWith serviceUrl = .error fault) :
      fault.Arises gate request fresh memory := by
    rcases (redirectWith_eq_error_iff login serviceUrl).mp rejected with ⟨rejection, -, rfl⟩
    exact .request (.rejected rejection)
  have course := evaluate_course gate request fresh memory
  generalize gate.evaluate request fresh memory = outcome at course failed
  cases course with
  | exclusionFails other fails =>
      cases failed
      rcases excludedUrl?_eq_error noPlugin fails with unreadable | ⟨unanswered, rfl⟩
      · exact .unreadable unreadable
      · exact .noAnswer unanswered
  | silentlyUnreadable consults silent other unreadable =>
      cases failed
      exact ofServiceUrl unreadable
  | consumeFails consults silent serviceUrl readable other consumed consume =>
      exact absurd consume (Resolver.not_consume_error builtIn)
  | rememberFails consults silent serviceUrl readable consumed consume stranger other left
      remember =>
      cases failed
      exact .remember consults silent stranger serviceUrl readable consumed consume other left
        remember
  | silentlySent consults silent serviceUrl readable consumed consume stranger settled left
      remember =>
      exact ofRedirect failed
  | openlyUnreadable consults notSilent stranger other unreadable =>
      cases failed
      exact ofServiceUrl unreadable
  | openlySent consults notSilent stranger serviceUrl readable => exact ofRedirect failed
  | _ => cases failed

/-- Every fault of an evaluation has one of the causes. -/
theorem caused_of_evaluate (login : ∃ text, LoginUrl.parse text = .ok gate.login)
    (builtIn : ∀ exclusion, gate.options.exclusion = some exclusion → exclusion.BuiltIn)
    {attemptsKey : Text} (resolver : gate.options.resolver = .session attemptsKey)
    (failed : (gate.evaluate request fresh memory).result = .error fault) :
    fault.Caused gate attemptsKey request memory := by
  have isBuiltIn : gate.options.resolver.BuiltIn := by
    rw [resolver]
    trivial
  cases arises_of_evaluate login builtIn isBuiltIn failed with
  | request ofRequest => exact .request ofRequest
  | unreadable unreadable => exact .unreadable unreadable
  | noAnswer unanswered => exact .noAnswer unanswered
  | remember consults silent stranger serviceUrl readable consumed consume other left remember =>
      rw [resolver] at consume remember
      rcases Resolver.remember_session_eq_error remember with
        ⟨absent, rfl⟩ | ⟨current, damage, present, damaged, rfl⟩
      · rcases withoutSession_eq request with ofRequest | unreadable
        · exact .request ofRequest
        · exact .unreadable unreadable
      · -- consuming has passed over the damaged value, so the visit found it there
        have presentBefore := Resolver.damaged_of_consume consume present damaged
        exact .damage damage ⟨consults, silent, stranger, ⟨serviceUrl, readable⟩, current,
          presentBefore, damaged⟩

/--
An evaluation that fails does so by a fault of the request, or because the URL of the request cannot
be put together or the exclusion pattern has no answer for it, or because it meets damaged attempts.
Damaged attempts always end the visit that meets them with a fault that is none of the request's;
they are a value that is set and is no map.
-/
theorem evaluate_fails_by_request_or_damage (gate : Gate)
    (login : ∃ text, LoginUrl.parse text = .ok gate.login)
    (builtIn : ∀ exclusion, gate.options.exclusion = some exclusion → exclusion.BuiltIn)
    (attemptsKey : Text) (resolver : gate.options.resolver = .session attemptsKey)
    (request : Request) (fresh : Fresh) (memory : Memory) :
    (∀ fault, (gate.evaluate request fresh memory).result = .error fault →
      fault.Caused gate attemptsKey request memory) ∧
    (gate.HasNoAnswer request →
      (gate.evaluate request fresh memory).result = .error (.escaped .noAnswer)) ∧
    ∀ damage, gate.MeetsDamage attemptsKey request memory damage →
      (gate.evaluate request fresh memory).result = .error (.attempt (.damaged damage)) ∧
      ∃ value, memory.sessionValue? attemptsKey = some value ∧ value.isSet = true ∧
        ∀ entries, value ≠ .map entries := by
  refine ⟨fun fault => caused_of_evaluate login builtIn resolver, ?_, ?_⟩
  · intro unanswered
    rw [(Course.exclusionFails _ unanswered.excludedUrl?).evaluate_eq]
  · intro damage meets
    refine ⟨meets.evaluate resolver, ?_⟩
    rcases meets.damaged with ⟨current, present, damaged⟩
    rw [Memory.sessionValue?, present]
    exact Resolver.value_of_damaged damaged

/-- A session with a word in place of the attempts. -/
def wordForAttempts : Session :=
  ⟨[(Gateway.attemptsKey, .text "yes".toList)]⟩

/-- A word in place of the attempts fails the visit, by a fault that no request can bring about. -/
theorem evaluate_fails_by_word_for_attempts :
    (silentGate.evaluate homeRequest ⟨['m'], ['s']⟩ { session := some wordForAttempts }).result =
      .error (.attempt (.damaged .notPair)) ∧
    ¬Fault.OfRequest (.attempt (.damaged .notPair)) := by
  have meets : silentGate.MeetsDamage Gateway.attemptsKey homeRequest
      { session := some wordForAttempts } .notPair :=
    ⟨⟨rfl, rfl⟩, rfl, stranger_homeRequest _ rfl, ⟨_, rfl⟩, ⟨wordForAttempts, rfl, rfl⟩⟩
  rcases evaluate_fails_by_request_or_damage silentGate ⟨_, parse_withOptions _⟩ nofun
    Gateway.attemptsKey rfl homeRequest ⟨['m'], ['s']⟩ { session := some wordForAttempts } with
    ⟨-, -, damage⟩
  exact ⟨(damage .notPair meets).1, nofun⟩

end Gate

end SignOnGate
