import SignOnGate.Delivery
import SignOnGate.Exclusion
import SignOnGate.Gateway.Resolver
import SignOnGate.Login
import SignOnGate.Protocol
import SignOnGate.Setup.Fault

/-!
# Gates

A gate is its configuration: the login URL, and the options that say how requests are judged. It
holds no state of its own; whatever lasts between requests is in the memory that a visit is given.
-/

namespace SignOnGate

/-- How a gate judges requests. -/
structure GateOptions where
  /-- Whether the client has to log in afresh. -/
  renew : Bool := false
  /-- Whether login is first attempted silently. -/
  gateway : Bool := false
  protocol : Protocol := .cas2
  exclusion : Option Exclusion := none
  resolver : Gateway.Resolver := .standard
  delivery : Delivery := .standard
  /-- The service URL for all requests; an empty one counts as none. -/
  service : Option Text := none
  serverName : Option Text := none
  /-- The session key of the assertion. -/
  assertionKey : Text := "_const_cas_assertion_".toList

/-- A gate. Its login URL has two parts, neither of them empty. -/
structure Gate where
  login : LoginUrl
  options : GateOptions := {}
  firstPart_ne_nil : login.firstPart ≠ []
  lastPart_ne_nil : login.lastPart ≠ []

namespace Gate

/-- A gate with the given login URL, unless one of its parts is empty. -/
def make (login : LoginUrl) (options : GateOptions) : Except ConfigurationError Gate :=
  if parts : login.firstPart ≠ [] ∧ login.lastPart ≠ [] then
    .ok { login, options, firstPart_ne_nil := parts.1, lastPart_ne_nil := parts.2 }
  else .error .loginPartsEmpty

/-- A one-line account of a gate. -/
def summary (gate : Gate) : Text :=
  let exclusion := gate.options.exclusion.map Exclusion.className
  "CAS gate configured: login=".toList ++ gate.login.fullUrl ++
    " renew=".toList ++ Value.displayBool gate.options.renew ++
    " gateway=".toList ++ Value.displayBool gate.options.gateway ++
    " protocol=".toList ++ gate.options.protocol.name ++
    " exclusion=".toList ++ exclusion.getD "None".toList

end Gate

end SignOnGate
