import SignOnGate.Response
import SignOnGate.Text.Latin

/-!
# Replies

A response as it goes over the wire: with the length and the type of its body in front, and header
names in small letters. Headers must be Latin-1.
-/

namespace SignOnGate

namespace Http

open Text

/-- A response as it goes over the wire. -/
structure Reply where
  status : Int
  headers : List (Text × Text)
  body : List UInt8
  deriving Repr, DecidableEq

namespace Reply

/-- Whether a response of a status tells the length of its body. -/
def tellsLength (status : Int) : Bool :=
  200 ≤ status && status != 204 && status != 304

/-- The type of a body; a text gets its character set unless it names one. -/
def contentType (mediaType : Text) : Text :=
  if "text/".toList.isPrefixOf mediaType && !occursIn "charset=".toList (lower mediaType) then
    mediaType ++ "; charset=utf-8".toList
  else mediaType

/-- The headers that describe the body. -/
def bodyHeaders (response : Response) : List (Text × Text) :=
  (if tellsLength response.status then
    [("content-length".toList, ofNat response.body.length)] else []) ++
  (match response.mediaType with
    | none => []
    | some mediaType => [("content-type".toList, contentType mediaType)])

/-- All headers of a response. -/
def headersOf (response : Response) : List (Text × Text) :=
  bodyHeaders response ++ response.headers.map fun header => (lower header.1, header.2)

/-- A response as it goes over the wire, unless a header has no form there. -/
def ofResponse? (response : Response) : Option Reply :=
  let headers := headersOf response
  if headers.all fun header => Latin.encodable header.1 && Latin.encodable header.2 then
    some { status := response.status, headers, body := response.body }
  else none

end Reply

end Http

end SignOnGate
