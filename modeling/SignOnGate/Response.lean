import SignOnGate.Text.Lower

/-!
# Responses

The response that a redirect is written into. Headers keep their order and may repeat; their names
are compared without regard to case.
-/

namespace SignOnGate

/-- A response that is being written. -/
structure Response where
  status : Int := 200
  headers : List (Text × Text) := []
  body : List UInt8 := []
  mediaType : Option Text := none
  deriving Repr, DecidableEq

namespace Response

/-- The name of the header that carries the target of a redirect. -/
def locationHeader : Text := "Location".toList

/-- The response with one more header at the end. -/
def addHeader (response : Response) (name value : Text) : Response :=
  { response with headers := response.headers ++ [(name, value)] }

/-- The last value of a header. -/
def header? (response : Response) (name : Text) : Option Text :=
  (response.headers.reverse.find? fun header => Text.sameIgnoringCase header.1 name).map Prod.snd

/-- The response as a redirect: its only location is the given one. -/
def sendRedirect (response : Response) (location : Text) (status : Int) : Response :=
  let others := response.headers.filter fun header => !Text.sameIgnoringCase header.1 locationHeader
  ({ response with status, headers := others }).addHeader locationHeader location

/-- Whether the response is a redirect: a status of the three hundreds and a location. -/
def isRedirect (response : Response) : Bool :=
  300 ≤ response.status && response.status < 400 && (response.header? locationHeader).isSome

end Response

end SignOnGate
