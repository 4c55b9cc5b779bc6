import SignOnGate.OrderedMap
import SignOnGate.Query
import SignOnGate.Text.Lower
import SignOnGate.Url.Basic

/-!
# Requests

What the gate reads of a request: its URL, its headers by name in any case, and its parameters. The
URL is put together from parts that the client controls, and that may fail; the failure shows only
when somebody asks for the URL.
-/

namespace SignOnGate

/-- Why a request has no URL. -/
inductive UnreadableUrl where
  /-- The query is not UTF-8. -/
  | queryNotText
  /-- The scheme has no default port to compare with. -/
  | unknownScheme
  deriving Repr, DecidableEq

/-- What the gate reads of a request. Header names are in small letters. -/
structure Request where
  url : Except UnreadableUrl Text
  headers : OrderedMap Text Text
  parameters : OrderedMap Text Text

namespace Request

/-- The value of a header, whose name may be in any case. -/
def header? (request : Request) (name : Text) : Option Text :=
  request.headers.get? (Text.lower name)

/-- The value of a parameter. -/
def parameter? (request : Request) (name : Text) : Option Text :=
  request.parameters.get? name

/-- The parameters in the query of a URL, the first of each name; none if the URL has no parts. -/
def parametersOf (url : Text) : OrderedMap Text Text :=
  match Url.split url with
  | .error _ => .empty
  | .ok parts => .ofFirst (Query.parse parts.query)

/-- Headers under names in small letters; of names that differ in case only, the last one stays. -/
def lowerNames (headers : OrderedMap Text Text) : OrderedMap Text Text :=
  .ofPairs (headers.entries.map fun entry => (Text.lower entry.1, entry.2))

/-- A request with the given URL and headers. Its parameters are those of the URL unless given. -/
def ofFields (url : Text) (headers : List (Text × Text))
    (parameters : Option (List (Text × Text))) : Request where
  url := .ok url
  headers := lowerNames (.ofPairs headers)
  parameters := (parameters.map OrderedMap.ofPairs).getD (parametersOf url)

end Request

end SignOnGate
