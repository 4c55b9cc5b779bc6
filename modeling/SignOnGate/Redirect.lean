import SignOnGate.Login
import SignOnGate.Text.Percent

/-!
# Login redirects

Where a client without credentials is sent. The login host follows the service host into another
top-level domain, and the service URL goes out in its `https` form.
-/

namespace SignOnGate

/-- The parameters that a redirect carries beside the service URL. -/
structure RedirectFlags where
  renew : Bool := false
  gateway : Bool := false
  deriving Repr, DecidableEq

/-- A login redirect: the login URL alone, the target of the client, and the service URL in it. -/
structure LoginRedirect where
  loginUrl : Text
  redirectUrl : Text
  serviceUrl : Text
  deriving Repr, DecidableEq

/-- Why there is no redirect. -/
inductive RedirectError where
  /-- The service URL is no absolute URL. -/
  | service (rejection : Url.Rejection)
  /-- The login URL is no absolute URL. -/
  | login (rejection : Url.Rejection)
  deriving Repr, DecidableEq

namespace LoginRedirect

open Text

/-- A flag as it stands in a query. -/
def flag (name : Text) (present : Bool) : Text :=
  if present then '&' :: name ++ "=true".toList else []

/-- A login URL with the service URL and the flags in its query, in front of any fragment. -/
def withService (loginUrl parameter serviceUrl : Text) (flags : RedirectFlags) : Text :=
  let base := before '#' loginUrl
  let separator := if base.contains '?' then '&' else '?'
  base ++ separator :: parameter ++ '=' :: Percent.encode serviceUrl ++
    flag "renew".toList flags.renew ++ flag "gateway".toList flags.gateway ++
    loginUrl.dropWhile (· != '#')

/-- The login URL for a service on the given host. -/
def loginFor (login : LoginUrl) (serviceHost : Text) : Except Url.Rejection Text :=
  let label := rightmostLabel serviceHost
  if sameIgnoringCase label login.lastPart then .ok login.fullUrl
  else
    (Url.Absolute.parse login.fullUrl).map fun url =>
      replaceHost url (login.firstPart ++ '.' :: label)

/-- The redirect for a service URL. -/
def build (login : LoginUrl) (parameter serviceUrl : Text) (flags : RedirectFlags) :
    Except RedirectError LoginRedirect :=
  match Url.Absolute.parse serviceUrl with
  | .error rejection => .error (.service rejection)
  | .ok service =>
    match loginFor login service.host with
    | .error rejection => .error (.login rejection)
    | .ok loginUrl =>
      match upgradeToHttps serviceUrl with
      | .error rejection => .error (.service rejection)
      | .ok serviceUrl =>
        .ok { loginUrl, serviceUrl, redirectUrl := withService loginUrl parameter serviceUrl flags }

end LoginRedirect

end SignOnGate
