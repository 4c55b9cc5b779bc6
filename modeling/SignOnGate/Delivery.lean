import SignOnGate.Plugin.Escape
import SignOnGate.Request
import SignOnGate.Response
import SignOnGate.Text.Attribute
import SignOnGate.Text.JsonString
import SignOnGate.Text.Utf8

/-!
# Delivery of redirects

How a client is told where to go. The plain way is a redirect with a location. Partial requests of a
Faces page, and requests of a script, would swallow such a response; they get a document that
carries the target.
-/

namespace SignOnGate

/-- How a client is told where to go. -/
inductive Delivery where
  /-- A redirect. -/
  | plain (status : Int)
  /-- A partial-response document for partial requests of a Faces page, else a redirect. -/
  | faces (status : Int)
  /-- A JSON document for requests of a script, else a redirect. -/
  | script (status : Int)
  /-- By a plugin, which may lack the operation. -/
  | custom (className : Text) (write : Option (Request → Text → Response → Except Escape Response))

namespace Delivery

/-- The status of a redirect, unless another one is configured. -/
def standardStatus : Int := 302

/-- The delivery that is used unless another one is configured. -/
def standard : Delivery := plain standardStatus

/-- The parameter that marks a partial request of a Faces page. -/
def facesParameter : Text := "javax.faces.partial.ajax".toList

/-- Whether a request is a partial request of a Faces page. -/
def isFacesRequest (request : Request) : Bool :=
  match request.parameter? facesParameter with
  | none | some [] => false
  | some _ => true

/-- Whether a request comes from a script: it says so, or it accepts JSON and no page. -/
def isScriptRequest (request : Request) : Bool :=
  let requestedWith := (request.header? "X-Requested-With".toList).getD []
  let accept := Text.lower ((request.header? "Accept".toList).getD [])
  Text.lower requestedWith == "xmlhttprequest".toList ||
    (Text.occursIn "application/json".toList accept && !Text.occursIn "text/html".toList accept)

/-- The document that sends a Faces page to a target. -/
def facesDocument (target : Text) : Text :=
  "<?xml version='1.0' encoding='UTF-8'?><partial-response><redirect url=".toList ++
    Attribute.encode target ++ "></redirect></partial-response>".toList

/-- The document that tells a script where to log in. -/
def scriptDocument (target : Text) : Text :=
  '\x7b' :: JsonString.encode "login_url".toList ++ ": ".toList ++ JsonString.encode target ++
    ['\x7d']

/-- Writes into a response that the client is to go to the target. -/
def write (delivery : Delivery) (request : Request) (response : Response) (target : Text) :
    Except Escape Response :=
  match delivery with
  | plain status => .ok (response.sendRedirect target status)
  | faces status =>
    if isFacesRequest request then
      .ok { response with
        status := 200
        mediaType := some "text/xml".toList
        body := Utf8.encode (facesDocument target) }
    else .ok (response.sendRedirect target status)
  | script status =>
    if isScriptRequest request then
      .ok { response with
        status := 401
        mediaType := some "application/json".toList
        body := Utf8.encode (scriptDocument target) }
    else .ok (response.sendRedirect target status)
  | custom _ (some operation) => operation request target response
  | custom _ none => .error .missingOperation

/-- The class name that a delivery is shown under. -/
def className : Delivery → Text
  | plain _ => "DefaultRedirectStrategy".toList
  | faces _ => "FacesCompatibleRedirectStrategy".toList
  | script _ => "XhrRedirectStrategy".toList
  | custom className _ => className

end Delivery

end SignOnGate
