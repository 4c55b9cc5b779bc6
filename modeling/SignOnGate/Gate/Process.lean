import SignOnGate.Gate.Evaluate

/-!
# Processing

Evaluation together with the response. A client that is sent away gets the login URL in a header of
its own, for those that log in by themselves, and whatever the delivery writes.
-/

namespace SignOnGate

namespace Gate

/-- The header that carries the login URL. -/
def loginUrlHeader : Text := "Cas-Server-Login-Url".toList

/-- What processing has come to: the outcome, and the response as far as it was written. -/
structure Processed where
  outcome : Outcome Decision
  response : Response

/-- Writes a redirect into a response. -/
def announce (gate : Gate) (request : Request) (redirect : LoginRedirect) (response : Response) :
    Except Escape Unit × Response :=
  let announced := response.addHeader loginUrlHeader redirect.loginUrl
  match gate.options.delivery.write request announced redirect.redirectUrl with
  | .ok written => (.ok (), written)
  | .error escape => (.error escape, announced)

/-- Decides about a request, and writes the redirect into the response if there is one. -/
def process (gate : Gate) (request : Request) (fresh : Fresh) (memory : Memory)
    (response : Response) : Processed :=
  let outcome := gate.evaluate request fresh memory
  match outcome.result with
  | .ok (.needsRedirect redirect) =>
    let events := outcome.events ++ [.redirecting redirect.redirectUrl]
    match gate.announce request redirect response with
    | (.ok (), written) => { outcome := { outcome with events }, response := written }
    | (.error escape, announced) =>
      { outcome := { outcome with result := .error (.escaped escape), events },
        response := announced }
  | _ => { outcome, response }

end Gate

end SignOnGate
