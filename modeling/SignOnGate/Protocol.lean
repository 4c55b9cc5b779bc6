import SignOnGate.Text.Basic

/-!
# Login protocols

The variants of the login protocol. A variant fixes the name of the parameter that carries the
ticket on the way back, and of the one that carries the service URL on the way out.
-/

namespace SignOnGate

/-- A variant of the login protocol. -/
inductive Protocol where
  | cas1
  | cas2
  | cas3
  | saml11
  deriving Repr, DecidableEq

namespace Protocol

/-- The name under which a variant is configured. -/
def name : Protocol → Text
  | cas1 => "CAS1".toList
  | cas2 => "CAS2".toList
  | cas3 => "CAS3".toList
  | saml11 => "SAML11".toList

/-- All variants. -/
def all : List Protocol := [cas1, cas2, cas3, saml11]

/-- The variant with exactly the given name. -/
def ofName? (name : Text) : Option Protocol :=
  all.find? (·.name = name)

/-- The parameter that carries the ticket. -/
def artifactParameter : Protocol → Text
  | saml11 => "SAMLart".toList
  | _ => "ticket".toList

/-- The parameter that carries the service URL. -/
def serviceParameter : Protocol → Text
  | saml11 => "TARGET".toList
  | _ => "service".toList

@[simp]
theorem ofName?_name (protocol : Protocol) : ofName? protocol.name = some protocol := by
  cases protocol <;> rfl

end Protocol

end SignOnGate
