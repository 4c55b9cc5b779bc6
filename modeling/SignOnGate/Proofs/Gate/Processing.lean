import SignOnGate.Gate.Process
import SignOnGate.Proofs.Gate.Course

/-!
# What processing adds to an evaluation

Processing writes into the response only when a client is sent away; otherwise it leaves the outcome
and the response as they are. A delivery that is no plugin always succeeds, so that processing fails
only where the evaluation fails. The headers that it writes carry the login URL and the target.
-/

namespace SignOnGate

namespace Delivery

/-- The deliveries that are no plugins. -/
def BuiltIn : Delivery → Prop
  | custom _ _ => False
  | _ => True

/-- The types of the documents that are sent in place of a redirect. -/
def documentTypes : List Text :=
  ["text/xml".toList, "application/json".toList]

variable {delivery : Delivery}

theorem mem_headers_sendRedirect {response : Response} {target : Text} {status : Int}
    {header : Text × Text} (member : header ∈ (response.sendRedirect target status).headers) :
    header ∈ response.headers ∨ header = (Response.locationHeader, target) := by
  rcases List.mem_append.mp member with other | location
  · exact Or.inl ((List.mem_filter.mp other).1)
  · exact Or.inr (List.mem_singleton.mp location)

/-- A delivery that is no plugin succeeds. It adds no header but a location with the target, and no
media type but that of a document. -/
theorem exists_write (builtIn : delivery.BuiltIn) (request : Request) (response : Response)
    (target : Text) :
    ∃ written, delivery.write request response target = .ok written ∧
      (∀ header ∈ written.headers,
        header ∈ response.headers ∨ header = (Response.locationHeader, target)) ∧
      ∀ mediaType ∈ written.mediaType,
        mediaType ∈ response.mediaType ∨ mediaType ∈ documentTypes := by
  have redirected (status : Int) :
      ∃ written, Except.ok (ε := Escape) (response.sendRedirect target status) = .ok written ∧
        (∀ header ∈ written.headers,
          header ∈ response.headers ∨ header = (Response.locationHeader, target)) ∧
        ∀ mediaType ∈ written.mediaType,
          mediaType ∈ response.mediaType ∨ mediaType ∈ documentTypes :=
    ⟨_, rfl, fun header => mem_headers_sendRedirect, fun mediaType => Or.inl⟩
  cases delivery with
  | plain status => exact redirected status
  | faces status =>
      rw [write]
      split
      · refine ⟨_, rfl, fun header => Or.inl, ?_⟩
        intro mediaType member
        cases member
        exact Or.inr (by simp [documentTypes])
      · exact redirected status
  | script status =>
      rw [write]
      split
      · refine ⟨_, rfl, fun header => Or.inl, ?_⟩
        intro mediaType member
        cases member
        exact Or.inr (by simp [documentTypes])
      · exact redirected status
  | custom className operation => exact absurd builtIn id

end Delivery

namespace Gate

variable {gate : Gate} {request : Request} {fresh : Fresh} {memory : Memory} {response : Response}
  {decision : Decision} {redirect : LoginRedirect}

/-- The response that a delivery is given: the earlier one, and the login URL in a header. -/
def announced (response : Response) (redirect : LoginRedirect) : Response :=
  response.addHeader loginUrlHeader redirect.loginUrl

theorem process_of_sent
    (sent : (gate.evaluate request fresh memory).result = .ok (.needsRedirect redirect))
    {written : Response}
    (delivered : gate.options.delivery.write request (announced response redirect)
      redirect.redirectUrl = .ok written) :
    (gate.process request fresh memory response).outcome.result = .ok (.needsRedirect redirect) ∧
      (gate.process request fresh memory response).response = written := by
  rw [announced] at delivered
  simp [process, sent, announce, delivered]

/-- A delivery that fails leaves the announced response behind. -/
theorem process_of_undelivered
    (sent : (gate.evaluate request fresh memory).result = .ok (.needsRedirect redirect))
    {escape : Escape}
    (failed : gate.options.delivery.write request (announced response redirect)
      redirect.redirectUrl = .error escape) :
    (gate.process request fresh memory response).outcome.result = .error (.escaped escape) ∧
      (gate.process request fresh memory response).response = announced response redirect := by
  rw [announced] at failed
  simp [process, sent, announce, failed, announced]

/-- A request that is not sent away leaves the response as it was. -/
theorem process_of_not_sent
    (notSent : ∀ redirect,
      (gate.evaluate request fresh memory).result ≠ .ok (.needsRedirect redirect)) :
    gate.process request fresh memory response =
      { outcome := gate.evaluate request fresh memory, response } := by
  rw [process]
  split
  · rename_i redirect sent
    exact absurd sent (notSent redirect)
  · rfl

/-- With a delivery that is no plugin, processing comes to the result of the evaluation. -/
theorem result_process (builtIn : gate.options.delivery.BuiltIn) (request : Request) (fresh : Fresh)
    (memory : Memory) (response : Response) :
    (gate.process request fresh memory response).outcome.result =
      (gate.evaluate request fresh memory).result := by
  by_cases isSent : ∃ redirect,
      (gate.evaluate request fresh memory).result = .ok (.needsRedirect redirect)
  · rcases isSent with ⟨redirect, sent⟩
    rcases Delivery.exists_write builtIn request (announced response redirect)
      redirect.redirectUrl with ⟨written, delivered, -⟩
    rw [(process_of_sent sent delivered).1, sent]
  · rw [process_of_not_sent fun redirect sent => isSent ⟨redirect, sent⟩]

/-- With a delivery that is no plugin, processing writes no header value but the login URL and the
target of the redirect. -/
theorem mem_headers_process (builtIn : gate.options.delivery.BuiltIn)
    (sent : (gate.evaluate request fresh memory).result = .ok (.needsRedirect redirect))
    {header : Text × Text}
    (member : header ∈ (gate.process request fresh memory response).response.headers) :
    header ∈ response.headers ∨ header = (loginUrlHeader, redirect.loginUrl) ∨
      header = (Response.locationHeader, redirect.redirectUrl) := by
  rcases Delivery.exists_write builtIn request (announced response redirect)
    redirect.redirectUrl with ⟨written, delivered, headers, -⟩
  rw [(process_of_sent sent delivered).2] at member
  rcases headers header member with before | location
  · rcases List.mem_append.mp before with earlier | login
    · exact Or.inl earlier
    · exact Or.inr (Or.inl (List.mem_singleton.mp login))
  · exact Or.inr (Or.inr location)

/-- With a delivery that is no plugin, the body is of a document's type if it has got a type. -/
theorem mem_mediaType_process (builtIn : gate.options.delivery.BuiltIn)
    (sent : (gate.evaluate request fresh memory).result = .ok (.needsRedirect redirect))
    {mediaType : Text}
    (typed : mediaType ∈ (gate.process request fresh memory response).response.mediaType) :
    mediaType ∈ response.mediaType ∨ mediaType ∈ Delivery.documentTypes := by
  rcases Delivery.exists_write builtIn request (announced response redirect)
    redirect.redirectUrl with ⟨written, delivered, -, types⟩
  rw [(process_of_sent sent delivered).2] at typed
  exact types mediaType typed

end Gate

end SignOnGate
