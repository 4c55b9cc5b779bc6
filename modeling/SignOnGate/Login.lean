import SignOnGate.Url.Absolute

/-!
# Login URLs

The configured login URL, cut at the last dot of its host. The part behind that dot is what follows
the host of the service when the two differ.
-/

namespace SignOnGate

/-- A login URL, and its host on both sides of the last dot. -/
structure LoginUrl where
  firstPart : Text
  lastPart : Text
  fullUrl : Text
  deriving Repr, DecidableEq

/-- Why a text is no login URL. -/
inductive LoginError where
  /-- There is no text, or only blanks. -/
  | empty
  /-- The text is no absolute URL. -/
  | rejected (rejection : Url.Rejection)
  /-- The host has no dot between two labels. -/
  | singleLabel (host : Text)
  deriving Repr, DecidableEq

/-- The words for a login URL that is not accepted. -/
def LoginError.message : LoginError → Text
  | empty => "cas_server_login_url cannot be empty".toList
  | rejected rejection => rejection.message
  | singleLabel host =>
    "Login URL host ".toList ++ Text.quoted host ++ " must have at least two DNS labels".toList

/-- The login URL that a text stands for. -/
def LoginUrl.parse (text : Text) : Except LoginError LoginUrl :=
  if Text.isBlankText text then .error .empty
  else
    match Url.Absolute.parse text with
    | .error rejection => .error (.rejected rejection)
    | .ok url =>
      let firstPart := Text.beforeLast '.' url.host
      let lastPart := Text.afterLast '.' url.host
      if firstPart = [] ∨ lastPart = [] then .error (.singleLabel url.host)
      else .ok { firstPart, lastPart, fullUrl := Text.strip text }

/-- The login URL that a text stands for, where there may be no text at all. -/
def LoginUrl.parse? : Option Text → Except LoginError LoginUrl
  | none => .error .empty
  | some text => parse text

end SignOnGate
