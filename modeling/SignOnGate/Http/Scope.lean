import SignOnGate.Http.Host
import SignOnGate.Request
import SignOnGate.Text.Latin
import SignOnGate.Text.Utf8

/-!
# Scopes

A scope is what the server knows of an HTTP request. It has the path in decoded form, the query as
bytes, and header names in small letters. As a request, its URL is put together again from these.
-/

namespace SignOnGate

namespace Http

open Text

/-- What the server knows of an HTTP request. -/
structure Scope where
  scheme : Text
  path : Text
  query : List UInt8
  headers : List (Text × Text)
  server : Option (Text × Int) := none
  deriving Repr, DecidableEq

namespace Scope

/-- The first value of a header, whose name is in small letters. -/
def header? (scope : Scope) (name : Text) : Option Text :=
  scope.headers.lookup name

/-- The default port of a scheme. -/
def defaultPort? (scheme : Text) : Option Int :=
  if scheme = "http".toList ∨ scheme = "ws".toList then some 80
  else if scheme = "https".toList ∨ scheme = "wss".toList then some 443
  else none

/--
A character of the path as it stands in a URL. Starlette 1.10 is followed: it escapes the characters
that end a path or that browsers take for a slash, and leaves a percent sign as it is.
-/
def pathChar (char : Char) : Text :=
  match char with
  | '?' => "%3F".toList
  | '#' => "%23".toList
  | '\\' => "%5C".toList
  | other => [other]

/-- The path as it stands in a URL. -/
def pathText (scope : Scope) : Text :=
  scope.path.flatMap pathChar

/--
The host that the headers name; a text that is no host is passed over, as Starlette 1.10 does.
-/
def namedHost? (scope : Scope) : Option Text :=
  (scope.header? "host".toList).filter namesHost

/-- The part of the URL in front of the path. Without a host it is empty. -/
def origin (scope : Scope) : Except UnreadableUrl Text :=
  match scope.namedHost?, scope.server with
  | some host, _ => .ok (scope.scheme ++ "://".toList ++ host)
  | none, none => .ok []
  | none, some (host, port) =>
    match defaultPort? scope.scheme with
    | none => .error .unknownScheme
    | some usual =>
      .ok (scope.scheme ++ "://".toList ++ host ++ if port = usual then [] else ':' :: ofInt port)

/--
The URL of a scope, put together as Starlette 1.10 does: from the named host or else the server, the
path with some characters escaped, and the query if there is one.
-/
def url (scope : Scope) : Except UnreadableUrl Text :=
  match scope.origin with
  | .error cause => .error cause
  | .ok origin =>
    if scope.query = [] then .ok (origin ++ scope.pathText)
    else
      match Utf8.decodeStrict scope.query with
      | none => .error .queryNotText
      | some query => .ok (origin ++ scope.pathText ++ '?' :: query)

/-- The scope as a request. A repeated header counts by its first value, a parameter by its last. -/
def request (scope : Scope) : Request where
  url := scope.url
  headers := .ofFirst scope.headers
  parameters := .ofPairs (Query.parse (Latin.decode scope.query))

end Scope

end Http

end SignOnGate
