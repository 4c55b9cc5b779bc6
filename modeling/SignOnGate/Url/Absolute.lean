import SignOnGate.Url.Basic
import SignOnGate.Text.Blank

/-!
# Absolute URLs

The gate works on absolute URLs only: a scheme, a host, and a port that can be read. Blanks around
the text are ignored. `Absolute` carries what parsing has established, so that nobody has to look
into the authority again.
-/

namespace SignOnGate

namespace Url

open Text

/-- Why a text is not accepted as an absolute URL. -/
inductive Rejection where
  /-- There is no text, or only blanks. -/
  | empty
  /-- The text cannot be split, or its port cannot be read. -/
  | faulty (text : Text) (fault : Fault)
  /-- There is no scheme or no host. -/
  | incomplete (text : Text)
  deriving Repr, DecidableEq

/-- The words for a rejection. -/
def Rejection.message : Rejection → Text
  | empty => "URL is empty".toList
  | faulty text fault => "Malformed URL ".toList ++ quoted text ++ ": ".toList ++ fault.message
  | incomplete text =>
    "Malformed URL ".toList ++ quoted text ++ ": scheme and host are required".toList

/-- A URL with a scheme, a host and a readable port. -/
structure Absolute where
  url : Url
  host : Text
  port : Option Nat
  scheme_ne_nil : url.scheme ≠ []
  hostname?_eq : url.hostname? = some host
  port?_eq : url.port? = .ok port

/-- The absolute URL that a text stands for. -/
def Absolute.parse (text : Text) : Except Rejection Absolute :=
  if isBlankText text then .error .empty
  else
    match split (strip text) with
    | .error fault => .error (.faulty text fault)
    | .ok url =>
      match port?_eq : url.port? with
      | .error fault => .error (.faulty text fault)
      | .ok port =>
        match hostname?_eq : url.hostname? with
        | none => .error (.incomplete text)
        | some host =>
          if scheme_eq : url.scheme = [] then .error (.incomplete text)
          else .ok ⟨url, host, port, scheme_eq, hostname?_eq, port?_eq⟩

/-- The absolute URL that a text stands for, where there may be no text at all. -/
def Absolute.parse? : Option Text → Except Rejection Absolute
  | none => .error .empty
  | some text => parse text

end Url

/-- The last label of a host: the text behind its last dot. -/
def rightmostLabel (host : Text) : Text :=
  Text.afterLast '.' host

/-- A URL with its host exchanged. User information is dropped; all other parts are kept. -/
def replaceHost (url : Url.Absolute) (host : Text) : Text :=
  Url.join { url.url with authority := Url.authorityOf host url.port }

/--
An `http` URL in its `https` form, without user information and fragment; any other URL as is.
-/
def upgradeToHttps (text : Text) : Except Url.Rejection Text :=
  match Url.Absolute.parse text with
  | .error rejection => .error rejection
  | .ok url =>
    if url.url.scheme = "http".toList then
      .ok (Url.join {
        scheme := "https".toList
        authority := Url.authorityOf url.host url.port
        path := url.url.path
        query := url.url.query })
    else .ok text

end SignOnGate
