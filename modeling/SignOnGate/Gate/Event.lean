import SignOnGate.Digest.Sha256

/-!
# Events

What a gate reports while it works. An access token shows only by the start of its digest.
-/

namespace SignOnGate

/-- Something that a gate reports. -/
inductive Event where
  | excluded (url : Text)
  | ticketPresent
  | returning (serviceUrl : Text)
  | tokenPresent (token : Text)
  | loginNeeded
  | storingAttempt
  | serviceUrlConstructed (serviceUrl : Text)
  | redirecting (redirectUrl : Text)
  deriving Repr, DecidableEq

namespace Event

/-- The start of the digest of an access token. -/
def fingerprint (token : Text) : Text :=
  (Sha256.hex token).take 12

/-- The words of a report. -/
def message : Event → Text
  | excluded url => "Request is ignored: ".toList ++ url
  | ticketPresent => "Ticket present, passing request to validation".toList
  | returning serviceUrl => "Returning from gateway attempt for ".toList ++ serviceUrl
  | tokenPresent token => "Access token present (sha256:".toList ++ fingerprint token ++ [')']
  | loginNeeded => "No ticket and no assertion found".toList
  | storingAttempt => "Storing gateway attempt in session".toList
  | serviceUrlConstructed serviceUrl => "Constructed service url: ".toList ++ serviceUrl
  | redirecting redirectUrl => "Redirecting to \"".toList ++ redirectUrl ++ ['"']

end Event

end SignOnGate
