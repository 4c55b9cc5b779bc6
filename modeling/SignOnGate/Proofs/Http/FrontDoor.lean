import SignOnGate.Http.FrontDoor
import SignOnGate.Proofs.Gate.Processing
import SignOnGate.Proofs.Text.Ascii

/-!
# The front door lets in nobody unjudged

The three ends of a dispatch, each with all that it comes to: the gate fails, the decision passes
the request through, or it stops the request and the written response is the reply. `Mediated`
collects what they have in common for the application behind the door.
-/

namespace SignOnGate

theorem Latin.encodable_append {first second : Text} (left : Latin.encodable first = true)
    (right : Latin.encodable second = true) : Latin.encodable (first ++ second) = true := by
  rw [encodable, List.all_append, Bool.and_eq_true]
  exact ⟨left, right⟩

theorem Latin.encodable_ofNat (value : Nat) : Latin.encodable (Text.ofNat value) = true := by
  rw [encodable, List.all_eq_true]
  intro char member
  have isAscii := Text.isAscii_of_isDigit (Text.isDigit_of_mem_ofNat member)
  simp only [Text.isAscii, decide_eq_true_eq] at isAscii ⊢
  omega

/-- The header names of a response, and the type of its body, have a form on the wire. -/
structure Response.Spelled (response : Response) : Prop where
  names : ∀ header ∈ response.headers, Latin.encodable (Text.lower header.1) = true
  mediaType : ∀ mediaType ∈ response.mediaType, Latin.encodable mediaType = true

namespace Http

namespace Reply

variable {response : Response}

theorem encodable_contentType {mediaType : Text} (encodable : Latin.encodable mediaType = true) :
    Latin.encodable (contentType mediaType) = true := by
  rw [contentType]
  split
  · exact Latin.encodable_append encodable rfl
  · exact encodable

/-- The headers about a body have a form on the wire if its media type has one. -/
theorem encodable_bodyHeaders
    (typed : ∀ mediaType ∈ response.mediaType, Latin.encodable mediaType = true)
    {header : Text × Text} (member : header ∈ bodyHeaders response) :
    Latin.encodable header.1 = true ∧ Latin.encodable header.2 = true := by
  rcases List.mem_append.mp member with length | type
  · split at length
    · cases List.mem_singleton.mp length
      exact ⟨rfl, Latin.encodable_ofNat _⟩
    · cases length
  · split at type
    · cases type
    · rename_i mediaType typed_eq
      cases List.mem_singleton.mp type
      exact ⟨rfl, encodable_contentType (typed mediaType typed_eq)⟩

/-- A response goes over the wire as it was written, with small letters in the header names. -/
theorem ofResponse?_of_spelled (spelled : response.Spelled)
    (values : ∀ header ∈ response.headers, Latin.encodable header.2 = true) :
    ofResponse? response =
      some { status := response.status, headers := headersOf response, body := response.body } := by
  have encodable : (headersOf response).all
      (fun header => Latin.encodable header.1 && Latin.encodable header.2) = true := by
    rw [List.all_eq_true]
    intro header member
    rw [Bool.and_eq_true]
    rcases List.mem_append.mp member with ofBody | written
    · exact encodable_bodyHeaders spelled.mediaType ofBody
    · rcases List.mem_map.mp written with ⟨earlier, earlier_mem, rfl⟩
      exact ⟨spelled.names earlier earlier_mem, values earlier earlier_mem⟩
  simp only [ofResponse?, encodable, if_true]

end Reply

/-- The response of a gate that delivers without a plugin has a form on the wire but for values. -/
theorem spelled_process {gate : Gate} {request : Request} {fresh : Fresh} {memory : Memory}
    (builtIn : gate.options.delivery.BuiltIn) :
    (gate.process request fresh memory {}).response.Spelled := by
  by_cases isSent : ∃ redirect,
      (gate.evaluate request fresh memory).result = .ok (.needsRedirect redirect)
  · rcases isSent with ⟨redirect, sent⟩
    have names : ∀ name ∈ [Gate.loginUrlHeader, Response.locationHeader],
        Latin.encodable (Text.lower name) = true := by
      decide +kernel
    have documents : ∀ mediaType ∈ Delivery.documentTypes, Latin.encodable mediaType = true := by
      decide
    constructor
    · intro header member
      rcases Gate.mem_headers_process builtIn sent member with earlier | rfl | rfl
      · cases earlier
      · exact names _ (by simp)
      · exact names _ (by simp)
    · intro mediaType typed
      rcases Gate.mem_mediaType_process builtIn sent typed with earlier | document
      · cases earlier
      · exact documents mediaType document
  · rw [Gate.process_of_not_sent fun redirect sent => isSent ⟨redirect, sent⟩]
    exact ⟨nofun, nofun⟩

/--
The application behind a gate is called exactly for a request that the gate has passed through, and
then finds the decision. The fault of the gate leaves the dispatch as it is. For a request that is
stopped, the client gets the response that was written.
-/
structure Mediated {ε : Type} (delivery : Delivery) (judged : Gate.Processed)
    (application : Application ε) (dispatched : Dispatched ε) : Prop where
  called_iff : dispatched.visit.isSome = true ↔
    ∃ decision, judged.outcome.result = .ok decision ∧ decision.passesThrough = true
  finds : ∀ visit, dispatched.visit = some visit →
    ∃ decision, judged.outcome.result = .ok decision ∧ visit.gateDecision = .ok decision ∧
      dispatched.reply = (application visit judged.outcome.memory).1.mapError .application ∧
      dispatched.memory = (application visit judged.outcome.memory).2
  fails : ∀ fault, judged.outcome.result = .error fault →
    dispatched.reply = .error (.gate fault) ∧ dispatched.visit = none
  answers : ∀ decision, judged.outcome.result = .ok decision → decision.passesThrough = false →
    delivery.BuiltIn ∨ judged.response.Spelled →
    (∀ header ∈ judged.response.headers, Latin.encodable header.2 = true) →
    dispatched.reply = .ok {
      status := judged.response.status
      headers := Reply.bodyHeaders judged.response ++
        judged.response.headers.map fun header => (Text.lower header.1, header.2)
      body := judged.response.body }

namespace FrontDoor

variable {ε : Type} {door : FrontDoor} {application : Application ε} {scope : Scope}
  {contexts : Correlation.Stack} {minted : Text} {fresh : Fresh} {memory : Memory}

/-- The contexts that are open while a request is judged. -/
def inside (scope : Scope) (contexts : Correlation.Stack) (minted : Text) : Correlation.Stack :=
  Correlation.enter contexts (Correlation.idInHeaders? scope.headers) minted

theorem dispatch_of_fault {fault : Gate.Fault}
    (failed : (door.judge scope.request fresh memory).outcome.result = .error fault) :
    door.dispatch application scope contexts minted fresh memory = {
      reply := .error (.gate fault)
      memory := (door.judge scope.request fresh memory).outcome.memory
      records := Correlation.records (inside scope contexts minted)
        (door.judge scope.request fresh memory).outcome.events
      contexts := Correlation.leave (inside scope contexts minted) } := by
  simp only [dispatch, failed, inside]

/--
A request that passes is answered by the application, with the decision and the contexts at hand.
-/
theorem dispatch_of_passing {decision : Decision}
    (judged : (door.judge scope.request fresh memory).outcome.result = .ok decision)
    (passes : decision.passesThrough = true) {visit : Visit}
    (visit_eq : visit = { decision := some decision, contexts := inside scope contexts minted }) :
    door.dispatch application scope contexts minted fresh memory = {
      reply := (application visit (door.judge scope.request fresh memory).outcome.memory).1.mapError
        .application
      visit := some visit
      memory := (application visit (door.judge scope.request fresh memory).outcome.memory).2
      records := Correlation.records (inside scope contexts minted)
        (door.judge scope.request fresh memory).outcome.events
      contexts := Correlation.leave (inside scope contexts minted) } := by
  subst visit_eq
  simp only [dispatch, judged, conclude, passes, if_true, inside]

/-- A request that is stopped is answered with the response of the gate. -/
theorem dispatch_of_stopped {decision : Decision}
    (judged : (door.judge scope.request fresh memory).outcome.result = .ok decision)
    (stopped : decision.passesThrough = false) :
    door.dispatch application scope contexts minted fresh memory = {
      reply := match Reply.ofResponse? (door.judge scope.request fresh memory).response with
        | some reply => .ok reply
        | none => .error .unencodable
      memory := (door.judge scope.request fresh memory).outcome.memory
      records := Correlation.records (inside scope contexts minted)
        (door.judge scope.request fresh memory).outcome.events
      contexts := Correlation.leave (inside scope contexts minted) } := by
  cases wire : Reply.ofResponse? (door.judge scope.request fresh memory).response with
  | none =>
      simp only [dispatch, judged, conclude, stopped, Bool.false_eq_true, if_false, inside, wire]
  | some reply =>
      simp only [dispatch, judged, conclude, stopped, Bool.false_eq_true, if_false, inside, wire]

/-- A dispatch is mediated, at each of its three ends. -/
theorem mediated_dispatch (door : FrontDoor) (application : Application ε) (scope : Scope)
    (contexts : Correlation.Stack) (minted : Text) (fresh : Fresh) (memory : Memory) :
    Mediated door.gate.options.delivery (door.judge scope.request fresh memory) application
      (door.dispatch application scope contexts minted fresh memory) := by
  cases judged : (door.judge scope.request fresh memory).outcome.result with
  | error fault =>
      rw [dispatch_of_fault judged]
      refine ⟨by simp [judged], nofun, ?_, by simp [judged]⟩
      intro other failed
      rw [judged] at failed
      cases failed
      exact ⟨rfl, rfl⟩
  | ok decision =>
      cases passes : decision.passesThrough with
      | true =>
          rw [dispatch_of_passing judged passes rfl]
          refine ⟨by simp [judged, passes], ?_, by simp [judged], ?_⟩
          · rintro visit ⟨⟩
            exact ⟨decision, judged, rfl, rfl, rfl⟩
          · intro other decided stopped
            rw [judged] at decided
            cases decided
            rw [passes] at stopped
            cases stopped
      | false =>
          rw [dispatch_of_stopped judged passes]
          refine ⟨by simp [judged, passes], nofun, by simp [judged], ?_⟩
          intro other decided stopped wired values
          have spelled : (door.judge scope.request fresh memory).response.Spelled := by
            rcases wired with builtIn | spelled
            · exact spelled_process builtIn
            · exact spelled
          rw [Reply.ofResponse?_of_spelled spelled values]
          rfl

/-- An application that tells the client what has been decided. -/
def frankApplication : Application Visit.Undecided := fun visit memory =>
  (visit.gateDecision.map fun decision =>
    { status := 200, headers := [], body := Utf8.encode decision.stateName }, memory)

/-- A request for the home page with the given headers. -/
def homeScope (headers : List (Text × Text)) : Scope :=
  { scheme := "http".toList, path := "/home".toList, query := [],
    headers := ("host".toList, "app.example.org".toList) :: headers }

/-- The door of a gate that runs on a worker. -/
def workerDoor : FrontDoor :=
  { gate := .withOptions {}, threaded := true }

end FrontDoor

end Http

end SignOnGate
