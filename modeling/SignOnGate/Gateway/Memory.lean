import SignOnGate.Session

/-!
# What is remembered between requests

The session of the client, if it has one, and a store that all clients share. An entry of the shared
store has a text and the number of seconds that it is to be kept. A visit is offered fresh values
for what may have to be minted.
-/

namespace SignOnGate

/-- An entry of the shared store. -/
structure SharedEntry where
  content : Text
  seconds : Int
  deriving Repr, DecidableEq

/-- A store that all clients share. -/
abbrev SharedStore := OrderedMap Text SharedEntry

/-- What is remembered between the requests of one client. -/
structure Memory where
  session : Option Session := none
  shared : SharedStore := .empty

/-- Random values that a visit may use: a mark for an attempt, and an id for a session. -/
structure Fresh where
  mark : Text
  sessionId : Text
  deriving Repr, DecidableEq

namespace Memory

/-- The value under a key of the session. -/
def sessionValue? (memory : Memory) (key : Text) : Option Value :=
  memory.session.bind (·.get? key)

end Memory

end SignOnGate
