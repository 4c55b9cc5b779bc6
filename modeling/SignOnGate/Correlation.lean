import SignOnGate.Gate.Event
import SignOnGate.Text.Lower
import SignOnGate.Value

/-!
# Correlation

All reports about one request carry one id. Contexts nest: entering one puts its id on top, leaving
it brings back the id from before. An id comes from the headers of the request, or else is minted.
-/

namespace SignOnGate

namespace Correlation

/-- The ids of the open contexts, the innermost first. -/
abbrev Stack := List Text

/-- The id of the innermost context. -/
def current? (stack : Stack) : Option Text :=
  stack.head?

/-- The id of a new context: the given one, or the minted one if that is missing or empty. -/
def chosen (given : Option Text) (minted : Text) : Text :=
  match given with
  | none | some [] => minted
  | some id => id

/-- Opens a context. -/
def enter (stack : Stack) (given : Option Text) (minted : Text) : Stack :=
  chosen given minted :: stack

/-- Closes the innermost context. -/
def leave (stack : Stack) : Stack :=
  stack.tail

/-- A minted id, from a random number. -/
def mint (random : Nat) : Text :=
  "cas-".toList ++ Text.ofHex 16 random

/-- The key under which a record carries the id. -/
def recordKey : Text := "correlation_id".toList

/-- An id as a record shows it; null stands for none. -/
def shown (id : Option Text) : Value :=
  (id.map Value.text).getD .null

/-- Extra entries of a record together with an id, unless the caller has set one. -/
def stamp (id : Option Text) (extra : OrderedMap Text Value) : OrderedMap Text Value :=
  extra.putNew recordKey (shown id)

/-- An event with the id that was current when it was reported. -/
structure LogRecord where
  event : Event
  id : Option Text
  deriving Repr, DecidableEq

/-- Events with the current id. -/
def records (stack : Stack) (events : List Event) : List LogRecord :=
  events.map (⟨·, current? stack⟩)

/-- The headers that may carry an id, the most important one first. -/
def headerNames : List Text :=
  ["x-correlation-id".toList, "x-request-id".toList, "x-trace-id".toList]

/-- The id in the headers: of the first header with an id, the last value. -/
def idInHeaders? (headers : List (Text × Text)) : Option Text :=
  let values : OrderedMap Text Text :=
    .ofPairs (headers.map fun header => (Text.lower header.1, header.2))
  (headerNames.filterMap values.get?).find? (!·.isEmpty)

end Correlation

end SignOnGate
