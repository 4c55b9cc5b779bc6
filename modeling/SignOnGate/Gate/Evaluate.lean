import SignOnGate.Gate.Basic
import SignOnGate.Gate.Decision
import SignOnGate.Gate.Event
import SignOnGate.ServiceUrl

/-!
# Evaluation

How a gate decides about a request. The first of these that applies is the decision: the URL needs
no login; the session holds an assertion; the request brings a ticket; the client returns from a
silent attempt; the request brings an access token. Every other client is sent to the login service.

A silent attempt is consumed before anybody looks for a ticket, so that the visit with the ticket
consumes it too. A request whose URL cannot be read never gets a decision that depends on that URL.
-/

namespace SignOnGate

namespace Gate

/-- Why a request gets no decision. -/
inductive Fault where
  /-- A URL of the request, or a service URL made from it, is no absolute URL. -/
  | request (rejection : Url.Rejection)
  /-- The login URL is no absolute URL. -/
  | login (rejection : Url.Rejection)
  /-- The URL of the request cannot be put together. -/
  | unreadable (cause : UnreadableUrl)
  /-- An attempt cannot be consumed or remembered. -/
  | attempt (fault : Gateway.Fault)
  /-- A plugin failed. -/
  | escaped (escape : Escape)
  deriving Repr, DecidableEq

/-- The fault of a request that has no service URL. -/
def Fault.ofServiceUrl : ServiceUrl.Fault → Fault
  | .unreadable cause => .unreadable cause
  | .rejected rejection => .request rejection

/-- What an evaluation has come to: its result, what is remembered after it, and its reports. -/
structure Outcome (α : Type) where
  result : Except Fault α
  memory : Memory
  events : List Event := []

namespace Outcome

/-- The outcome with an earlier report in front. -/
def after {α : Type} (outcome : Outcome α) (event : Event) : Outcome α :=
  { outcome with events := event :: outcome.events }

end Outcome

/-! ## Reading the request -/

/-- The URL of a request. -/
def urlOf (request : Request) : Except Fault Text :=
  request.url.mapError Fault.unreadable

/-- The URL of a request if it needs no login. -/
def excludedUrl? (gate : Gate) (request : Request) : Except Fault (Option Text) :=
  match gate.options.exclusion with
  | none => .ok none
  | some exclusion =>
    match urlOf request with
    | .error fault => .error fault
    | .ok url =>
      match exclusion.accepts url with
      | .error escape => .error (.escaped escape)
      | .ok accepted => .ok (if accepted then some url else none)

/-- Whether the session holds an assertion; null is none. -/
def hasAssertion (gate : Gate) (memory : Memory) : Bool :=
  match memory.sessionValue? gate.options.assertionKey with
  | none | some .null => false
  | some _ => true

/-- The URL that the login service is to send the client back to. -/
def serviceUrl (gate : Gate) (request : Request) : Except Fault Text :=
  (ServiceUrl.construct request gate.options.protocol.artifactParameter gate.options.service
    gate.options.serverName).mapError Fault.ofServiceUrl

/-- Whether the request brings a ticket that is not blank. -/
def hasTicket (gate : Gate) (request : Request) : Bool :=
  match request.parameter? gate.options.protocol.artifactParameter with
  | none => false
  | some ticket => !Text.isBlankText ticket

/-- What an access token stands behind in a header, in letters of any case. -/
def bearerStart : Text := "bearer ".toList

/-- The access token that a request brings. -/
def bearerToken? (request : Request) : Option Text :=
  match request.header? "Authorization".toList with
  | none => none
  | some header =>
    if !Text.isBlankText header && bearerStart.isPrefixOf (Text.lower header) then
      some (header.drop bearerStart.length)
    else none

/-! ## Deciding -/

/-- The flags of the redirects of a gate. -/
def flags (gate : Gate) : RedirectFlags :=
  { renew := gate.options.renew, gateway := gate.options.gateway }

/-- The decision to send a client away with a service URL. -/
def redirectWith (gate : Gate) (serviceUrl : Text) : Except Fault Decision :=
  match LoginRedirect.build gate.login gate.options.protocol.serviceParameter serviceUrl
      gate.flags with
  | .error (.service rejection) => .error (.request rejection)
  | .error (.login rejection) => .error (.login rejection)
  | .ok redirect => .ok (.needsRedirect redirect)

/-- Sends a client away with the URL that the resolver has settled on. -/
def depart (gate : Gate) (serviceUrl : Text) (memory : Memory) : Outcome Decision :=
  { result := gate.redirectWith serviceUrl, memory,
    events := [.serviceUrlConstructed serviceUrl] }

/-- Sends a client to the login service, remembering the attempt if it is to be silent. -/
def send (gate : Gate) (request : Request) (serviceUrl : Text) (fresh : Fresh) (memory : Memory) :
    Outcome Decision :=
  if gate.options.gateway then
    match gate.options.resolver.remember request serviceUrl fresh memory with
    | (.error fault, memory) =>
      { result := .error (.attempt fault), memory, events := [.storingAttempt] }
    | (.ok settled, memory) => (gate.depart settled memory).after .storingAttempt
  else gate.depart serviceUrl memory

/-- Judges a client that neither brings a ticket nor returns from an attempt. -/
def judgeStranger (gate : Gate) (request : Request) (serviceUrl : Except Fault Text) (fresh : Fresh)
    (memory : Memory) : Outcome Decision :=
  match bearerToken? request with
  | some token => { result := .ok (.bearer token), memory, events := [.tokenPresent token] }
  | none =>
    match serviceUrl with
    | .error fault => { result := .error fault, memory, events := [.loginNeeded] }
    | .ok serviceUrl => (gate.send request serviceUrl fresh memory).after .loginNeeded

/-- Judges a request where attempts are silent, and the latest one is consumed first. -/
def judgeSilently (gate : Gate) (request : Request) (fresh : Fresh) (memory : Memory) :
    Outcome Decision :=
  match gate.serviceUrl request with
  | .error fault => { result := .error fault, memory }
  | .ok serviceUrl =>
    match gate.options.resolver.consume request serviceUrl memory with
    | (.error fault, memory) => { result := .error (.attempt fault), memory }
    | (.ok returning, memory) =>
      if gate.hasTicket request then
        { result := .ok (.ticketed (some serviceUrl)), memory, events := [.ticketPresent] }
      else if returning then
        { result := .ok (.gatewayed serviceUrl), memory, events := [.returning serviceUrl] }
      else gate.judgeStranger request (.ok serviceUrl) fresh memory

/-- Judges a request where attempts are not silent. -/
def judgeOpenly (gate : Gate) (request : Request) (fresh : Fresh) (memory : Memory) :
    Outcome Decision :=
  if gate.hasTicket request then
    { result := .ok (.ticketed none), memory, events := [.ticketPresent] }
  else gate.judgeStranger request (gate.serviceUrl request) fresh memory

/-- Decides about a request. -/
def evaluate (gate : Gate) (request : Request) (fresh : Fresh) (memory : Memory) :
    Outcome Decision :=
  match gate.excludedUrl? request with
  | .error fault => { result := .error fault, memory }
  | .ok (some url) => { result := .ok .excluded, memory, events := [.excluded url] }
  | .ok none =>
    if gate.hasAssertion memory then { result := .ok .authenticated, memory }
    else if gate.options.gateway then gate.judgeSilently request fresh memory
    else gate.judgeOpenly request fresh memory

end Gate

end SignOnGate
