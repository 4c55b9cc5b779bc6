import SignOnGate.Query
import SignOnGate.Request
import SignOnGate.Url.Absolute

/-!
# Service URLs

The URL that the login service sends the client back to. It is configured, or else it is the
request's own URL without the ticket and without the fragment; a configured server name takes the
place of scheme, host and port.
-/

namespace SignOnGate

namespace ServiceUrl

open Text

/-- Why a request has no service URL. -/
inductive Fault where
  /-- The URL of the request cannot be put together. -/
  | unreadable (cause : UnreadableUrl)
  /-- The URL of the request is no absolute URL. -/
  | rejected (rejection : Url.Rejection)
  deriving Repr, DecidableEq

/-- Whether a server name brings its own scheme. -/
def hasScheme (name : Text) : Bool :=
  "http://".toList.isPrefixOf name || "https://".toList.isPrefixOf name

/-- A text without the slashes at its end. -/
def withoutEndSlashes (text : Text) : Text :=
  (text.reverse.dropWhile (· == '/')).reverse

/-- Scheme, host and port of a service URL; an empty server name counts as none. -/
def origin (url : Url) (serverName : Option Text) : Text :=
  match serverName with
  | none | some [] => url.scheme ++ "://".toList ++ url.authority
  | some name =>
    let name := withoutEndSlashes name
    if hasScheme name then name else url.scheme ++ "://".toList ++ name

/-- The service URL of a request to a URL. -/
def ofUrl (url : Url) (artifact : Text) (serverName : Option Text) : Text :=
  origin url serverName ++ url.path ++ Url.marked '?' (Query.without artifact url.query)

/-- The service URL of a request to the URL in a text. -/
def ofText (text artifact : Text) (serverName : Option Text) : Except Url.Rejection Text :=
  (Url.Absolute.parse text).map fun url => ofUrl url.url artifact serverName

/-- The service URL of a request. A configured one is taken as it is, unless it is empty. -/
def construct (request : Request) (artifact : Text) (service serverName : Option Text) :
    Except Fault Text :=
  match service with
  | some (head :: rest) => .ok (head :: rest)
  | _ =>
    match request.url with
    | .error cause => .error (.unreadable cause)
    | .ok url => (ofText url artifact serverName).mapError Fault.rejected

end ServiceUrl

end SignOnGate
