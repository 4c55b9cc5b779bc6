import SignOnGate.Proofs.Delivery
import SignOnGate.Proofs.Gate.Processing

/-!
# What processing leaves in a response

A response is either left as it is or written as a whole. Whatever was in it before, a written
response announces the login URL behind the earlier headers, and it is one of two things: a redirect
that keeps the body and has got the target for its only location, or a document in place of the
earlier one, with all earlier headers still there.
-/

namespace SignOnGate

namespace Response

/-- Whether a header is a location, in whichever case its name is written. -/
def isLocation (header : Text × Text) : Bool :=
  Text.sameIgnoringCase header.1 locationHeader

/-- The headers that tell a location. -/
def locations (response : Response) : List (Text × Text) :=
  response.headers.filter isLocation

/-- The headers that tell no location, in their order. -/
def others (response : Response) : List (Text × Text) :=
  response.headers.filter fun header => !isLocation header

variable {response : Response} {name value target : Text} {status : Int}

theorem isLocation_locationHeader (target : Text) : isLocation (locationHeader, target) = true :=
  beq_self_eq_true _

theorem isLocation_loginUrlHeader (loginUrl : Text) :
    isLocation (Gate.loginUrlHeader, loginUrl) = false := by
  have differ : Text.sameIgnoringCase Gate.loginUrlHeader locationHeader = false := by
    decide +kernel
  exact differ

theorem others_addHeader (other : isLocation (name, value) = false) :
    (response.addHeader name value).others = response.others ++ [(name, value)] := by
  simp [others, addHeader, other]

theorem locations_sendRedirect :
    (response.sendRedirect target status).locations = [(locationHeader, target)] := by
  have none_left : (response.headers.filter fun header => !isLocation header).filter isLocation =
      [] := by
    simp [List.filter_filter]
  change ((response.headers.filter fun header => !isLocation header) ++
    [(locationHeader, target)]).filter isLocation = _
  rw [List.filter_append, none_left]
  simp [isLocation_locationHeader]

theorem others_sendRedirect : (response.sendRedirect target status).others = response.others := by
  change ((response.headers.filter fun header => !isLocation header) ++
    [(locationHeader, target)]).filter (fun header => !isLocation header) = _
  simp [others, List.filter_filter, isLocation_locationHeader]

/-- A response was made a redirect to a target, and announces a login URL. -/
structure Redirected (before after : Response) (loginUrl target : Text) (status : Int) :
    Prop where
  status_eq : after.status = status
  body_eq : after.body = before.body
  mediaType_eq : after.mediaType = before.mediaType
  locations_eq : after.locations = [(locationHeader, target)]
  others_eq : after.others = before.others ++ [(Gate.loginUrlHeader, loginUrl)]

/-- A response was given a document in place of what it held, and announces a login URL. -/
structure Documented (before after : Response) (loginUrl : Text) (status : Int)
    (mediaType document : Text) : Prop where
  status_eq : after.status = status
  body_eq : after.body = Utf8.encode document
  mediaType_eq : after.mediaType = some mediaType
  headers_eq : after.headers = before.headers ++ [(Gate.loginUrlHeader, loginUrl)]

/-- What a redirect does to a response: one location, and all other headers as they were. -/
theorem redirected_sendRedirect (redirect : LoginRedirect) (status : Int) :
    Redirected response
      ((Gate.announced response redirect).sendRedirect redirect.redirectUrl status)
      redirect.loginUrl redirect.redirectUrl status where
  status_eq := rfl
  body_eq := rfl
  mediaType_eq := rfl
  locations_eq := locations_sendRedirect
  others_eq := by
    rw [others_sendRedirect, Gate.announced]
    exact others_addHeader (isLocation_loginUrlHeader _)

theorem documented_written (redirect : LoginRedirect) (status : Int) (mediaType document : Text) :
    Documented response
      { Gate.announced response redirect with
        status, mediaType := some mediaType, body := Utf8.encode document }
      redirect.loginUrl status mediaType document where
  status_eq := rfl
  body_eq := rfl
  mediaType_eq := rfl
  headers_eq := rfl

end Response

namespace Delivery

open Response

/-- What each delivery that is no plugin makes of a response: the requests that would swallow a
redirect get a document, all others are redirected with the delivery's status. -/
inductive Answers (request : Request) (loginUrl target : Text) (before after : Response) :
    Delivery → Prop where
  | plain (status : Int) (redirected : Redirected before after loginUrl target status) :
      Answers request loginUrl target before after (.plain status)
  | facesPage (status : Int) (whole : isFacesRequest request = false)
      (redirected : Redirected before after loginUrl target status) :
      Answers request loginUrl target before after (.faces status)
  | facesPart (status : Int) (partly : isFacesRequest request = true)
      (documented : Documented before after loginUrl 200 "text/xml".toList (facesDocument target)) :
      Answers request loginUrl target before after (.faces status)
  | scriptPage (status : Int) (navigating : isScriptRequest request = false)
      (redirected : Redirected before after loginUrl target status) :
      Answers request loginUrl target before after (.script status)
  | scriptCall (status : Int) (calling : isScriptRequest request = true)
      (documented : Documented before after loginUrl 401 "application/json".toList
        (scriptDocument target)) :
      Answers request loginUrl target before after (.script status)

/-- A built-in delivery writes its answer to every request. -/
theorem exists_answers {delivery : Delivery} (builtIn : delivery.BuiltIn) (request : Request)
    (response : Response) (redirect : LoginRedirect) :
    ∃ written,
      delivery.write request (Gate.announced response redirect) redirect.redirectUrl =
        .ok written ∧
      Answers request redirect.loginUrl redirect.redirectUrl response written delivery := by
  cases delivery with
  | plain status =>
      exact ⟨_, rfl, .plain status (redirected_sendRedirect redirect status)⟩
  | faces status =>
      cases partly : isFacesRequest request with
      | false =>
          refine ⟨_, ?_, .facesPage status partly (redirected_sendRedirect redirect status)⟩
          simp [write, partly]
      | true =>
          exact ⟨_, write_facesDocument partly status _ _,
            .facesPart status partly (documented_written redirect _ _ _)⟩
  | script status =>
      cases calling : isScriptRequest request with
      | false =>
          refine ⟨_, ?_, .scriptPage status calling (redirected_sendRedirect redirect status)⟩
          simp [write, calling]
      | true =>
          exact ⟨_, write_scriptDocument calling status _ _,
            .scriptCall status calling (documented_written redirect _ _ _)⟩
  | custom className operation => exact absurd builtIn id

end Delivery

namespace Gate

open Response

/-- Processing writes all or nothing. It comes to the result of the evaluation; an evaluation that
fails, or that lets the request through, leaves the response as it is; one that sends the client
away has the delivery's whole answer written, whatever the response held before. -/
theorem process_writes_all_or_nothing (gate : Gate) (builtIn : gate.options.delivery.BuiltIn)
    (request : Request) (fresh : Fresh) (memory : Memory) (response : Response) :
    (gate.process request fresh memory response).outcome.result =
      (gate.evaluate request fresh memory).result ∧
    match (gate.evaluate request fresh memory).result with
    | .error _ => (gate.process request fresh memory response).response = response
    | .ok decision =>
      if decision.passesThrough then
        (gate.process request fresh memory response).response = response
      else
        ∃ loginUrl target, decision.loginUrl? = some loginUrl ∧
          decision.redirectUrl? = some target ∧
          Delivery.Answers request loginUrl target response
            (gate.process request fresh memory response).response gate.options.delivery := by
  refine ⟨result_process builtIn request fresh memory response, ?_⟩
  have untouched (notSent : ∀ redirect,
      (gate.evaluate request fresh memory).result ≠ .ok (.needsRedirect redirect)) :
      (gate.process request fresh memory response).response = response := by
    rw [process_of_not_sent notSent]
  cases result : (gate.evaluate request fresh memory).result with
  | error fault => exact untouched (by simp [result])
  | ok decision =>
      cases decision with
      | needsRedirect redirect =>
          rcases Delivery.exists_answers builtIn request response redirect with
            ⟨written, delivered, answers⟩
          rw [(process_of_sent result delivered).2]
          exact ⟨redirect.loginUrl, redirect.redirectUrl, rfl, rfl, answers⟩
      | _ => exact untouched (by simp [result])

/-- A gate that answers scripts with a document, and redirects others with a status of its own. -/
def scriptGate : Gate :=
  .withOptions { delivery := .script 307 }

/-- A response that an earlier handler has written, with locations in three spellings. -/
def writtenResponse : Response where
  status := 404
  headers := [("location".toList, "/old".toList), ("X-Trace".toList, "1".toList),
    ("LOCATION".toList, []), ("X-Trace".toList, "2".toList), ("Location".toList, "/".toList)]
  body := [0x6E, 0x6F]
  mediaType := some "text/plain".toList

/-- The client is no script; the earlier locations give way, the rest of the response stays. -/
theorem process_writes_all_or_nothing_over_written_response :
    Redirected writtenResponse
        (scriptGate.process homeRequest ⟨['m'], ['s']⟩ {} writtenResponse).response
        "https://sso.example.org/cas/login".toList
        ("https://sso.example.org/cas/login?service=" ++
          "https%3A%2F%2Fapp.example.org%2Fhome").toList 307 ∧
      writtenResponse.others =
        [("X-Trace".toList, "1".toList), ("X-Trace".toList, "2".toList)] := by
  have sent : (scriptGate.evaluate homeRequest ⟨['m'], ['s']⟩ {}).result = .ok (.needsRedirect {
      loginUrl := "https://sso.example.org/cas/login".toList
      serviceUrl := "https://app.example.org/home".toList
      redirectUrl := ("https://sso.example.org/cas/login?service=" ++
        "https%3A%2F%2Fapp.example.org%2Fhome").toList }) := by
    decide +kernel
  have navigating : Delivery.isScriptRequest homeRequest = false := by
    decide +kernel
  rcases process_writes_all_or_nothing scriptGate trivial homeRequest ⟨['m'], ['s']⟩ {}
    writtenResponse with ⟨-, written⟩
  rw [sent] at written
  rcases written with ⟨loginUrl, target, login_eq, target_eq, answers⟩
  cases login_eq
  cases target_eq
  refine ⟨?_, by decide +kernel⟩
  cases answers with
  | scriptPage status _ redirected => exact redirected
  | scriptCall status calling documented =>
      rw [navigating] at calling
      cases calling

end Gate

end SignOnGate
