import SignOnGate.Correlation

/-!
# The variable with the current id

The current id stands in one variable that everybody reads. Opening a context sets the variable, and
the context keeps a token with the id from before; closing it resets the variable with that token.
-/

namespace SignOnGate

namespace Correlation

/-- What is done about contexts. A random number is at hand for an id that has to be minted. -/
inductive Operation where
  /-- Opens a context, for a given id if there is one. -/
  | enter (given : Option Text) (random : Nat)
  /-- Closes the innermost context. -/
  | leave
  /-- Asks for the current id. -/
  | read
  /-- Logs a record with extra entries. -/
  | log (extra : OrderedMap Text Value)

/-- What an operation tells. -/
inductive Answer where
  | entered (id : Text)
  | left
  | found (id : Option Text)
  | passedOn (extra : OrderedMap Text Value)

/-- The variable, and the tokens of the open contexts, the innermost first. -/
structure Ambient where
  current : Option Text := none
  tokens : List (Option Text) := []
  deriving DecidableEq

namespace Ambient

/-- Performs an operation. With no context open there is none to close. -/
def perform (ambient : Ambient) : Operation → Ambient × Answer
  | .enter given random =>
    let id := chosen given (mint random)
    ({ current := some id, tokens := ambient.current :: ambient.tokens }, .entered id)
  | .leave =>
    match ambient.tokens with
    | [] => (ambient, .left)
    | token :: outer => ({ current := token, tokens := outer }, .left)
  | .read => (ambient, .found ambient.current)
  | .log extra => (ambient, .passedOn (stamp ambient.current extra))

/-- What operations leave, one after the other. -/
def after (ambient : Ambient) (operations : List Operation) : Ambient :=
  operations.foldl (fun ambient operation => (ambient.perform operation).1) ambient

/-- What operations tell, one after the other. -/
def answers (ambient : Ambient) : List Operation → List Answer
  | [] => []
  | operation :: rest =>
    let performed := ambient.perform operation
    performed.2 :: performed.1.answers rest

end Ambient

end Correlation

end SignOnGate
