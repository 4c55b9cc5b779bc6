import SignOnGate.Url.Basic

/-!
# Keys of login attempts

An attempt is remembered under a key that does not depend on the scheme and the fragment of the
service URL, nor on the case of its authority: the client leaves from one form of the URL and comes
back to another.
-/

namespace SignOnGate

namespace Gateway

/-- The key of a service URL. A text that has no authority is its own key. -/
def key (serviceUrl : Text) : Text :=
  match Url.split serviceUrl with
  | .error _ => serviceUrl
  | .ok url =>
    if url.authority.isEmpty then serviceUrl
    else
      Url.join { url with scheme := [], authority := Text.lower url.authority, fragment := [] }

end Gateway

end SignOnGate
