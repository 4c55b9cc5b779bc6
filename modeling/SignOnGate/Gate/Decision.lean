import SignOnGate.Redirect

/-!
# Decisions

What a gate decides about a request. A decision carries what belongs to its outcome and nothing
else; the views tell what the application gets to see of it.
-/

namespace SignOnGate

/-- The decision about a request. -/
inductive Decision where
  /-- The URL needs no login. -/
  | excluded
  /-- The session holds the assertion of an earlier login. -/
  | authenticated
  /-- The request brings a ticket; the service URL is known if attempts are made silently. -/
  | ticketed (serviceUrl : Option Text)
  /-- The client returns from a silent attempt. -/
  | gatewayed (serviceUrl : Text)
  /-- The request brings an access token. -/
  | bearer (token : Text)
  /-- The client is sent to the login service. -/
  | needsRedirect (redirect : LoginRedirect)
  deriving Repr, DecidableEq

namespace Decision

/-- The name of the outcome. -/
def stateName : Decision → Text
  | excluded => "excluded".toList
  | authenticated => "authenticated".toList
  | ticketed _ => "ticketed".toList
  | gatewayed _ => "gatewayed".toList
  | bearer _ => "bearer_token".toList
  | needsRedirect _ => "needs_redirect".toList

/-- The redirect, if the client is sent away. -/
def redirect? : Decision → Option LoginRedirect
  | needsRedirect redirect => some redirect
  | _ => none

/-- Whether the request reaches the application. -/
def passesThrough (decision : Decision) : Bool :=
  decision.redirect?.isNone

/-- The service URL, if it is known. -/
def serviceUrl? : Decision → Option Text
  | ticketed serviceUrl => serviceUrl
  | gatewayed serviceUrl => some serviceUrl
  | needsRedirect redirect => some redirect.serviceUrl
  | _ => none

/-- The login URL without parameters, if the client is sent away. -/
def loginUrl? (decision : Decision) : Option Text :=
  decision.redirect?.map LoginRedirect.loginUrl

/-- Where the client is sent, if it is sent away. -/
def redirectUrl? (decision : Decision) : Option Text :=
  decision.redirect?.map LoginRedirect.redirectUrl

/-- The access token, if the request brings one. -/
def bearerToken? : Decision → Option Text
  | bearer token => some token
  | _ => none

end Decision

end SignOnGate
