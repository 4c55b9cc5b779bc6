import SignOnGate.Session
import SignOnGate.Text.JsonString

/-!
# Attempts kept in a session

The attempts of a session are a map from keys to marks, stored as a value of the session. Whatever
else is found there is read as far as it can be: a value that is not set means no attempts, a list
is read as a list of pairs.
-/

namespace SignOnGate

/-- Why a stored value cannot be read as attempts. -/
inductive DamagedAttempts where
  /-- A value, or an item of a list, is neither a text, a list nor a map. -/
  | notSequence
  /-- An item of a list does not have two parts. -/
  | notPair
  /-- The first part of an item is a list or a map. -/
  | badKey
  deriving Repr, DecidableEq

/-- Marks of attempts under the keys of their service URLs. -/
abbrev Attempts := OrderedMap Text Value

namespace Attempts

/-- The key that the first part of a pair stands for. -/
def pairKey : Value → Except DamagedAttempts Text
  | .text value => .ok value
  | .null => .ok "null".toList
  | .bool value => .ok (if value then "true".toList else "false".toList)
  | .int value => .ok (Text.ofInt value)
  | .decimal mantissa places => .ok (Value.displayDecimal mantissa places)
  | .list _ => .error .badKey
  | .map _ => .error .badKey

/-- The pair that an item of a list stands for. -/
def pairOf : Value → Except DamagedAttempts (Text × Value)
  | .text [key, value] => .ok ([key], .text [value])
  | .list [key, value] => (pairKey key).map (·, value)
  | .map [(key, _), (value, _)] => .ok (key, .text value)
  | .text _ => .error .notPair
  | .list _ => .error .notPair
  | .map _ => .error .notPair
  | _ => .error .notSequence

/-- The attempts that a list of pairs stands for, added to earlier ones. -/
def ofItems (attempts : Attempts) : List Value → Except DamagedAttempts Attempts
  | [] => .ok attempts
  | item :: rest =>
    match pairOf item with
    | .error damage => .error damage
    | .ok pair => ofItems (attempts.put pair.1 pair.2) rest

/-- The attempts that a stored value stands for. -/
def ofValue (value : Value) : Except DamagedAttempts Attempts :=
  if value.isSet then
    match value with
    | .map entries => .ok ⟨entries⟩
    | .list items => ofItems .empty items
    | .text _ => .error .notPair
    | _ => .error .notSequence
  else .ok .empty

/-- The attempts that the value under a key of a session stands for. -/
def ofSession (session : Session) (key : Text) : Except DamagedAttempts Attempts :=
  match session.get? key with
  | none => .ok .empty
  | some value => ofValue value

/-- Whether there is a mark under a key; null is no mark. -/
def marked (attempts : Attempts) (key : Text) : Bool :=
  match attempts.get? key with
  | none | some .null => false
  | some _ => true

/-- The session with the given attempts under a key, and without the key when there are none. -/
def store (attempts : Attempts) (session : Session) (key : Text) : Session :=
  if attempts.isEmpty then session.erase key else session.put key (.map attempts.entries)

end Attempts

end SignOnGate
