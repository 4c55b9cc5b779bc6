import SignOnGate.Digest.Sha256
import SignOnGate.Gateway.Attempts
import SignOnGate.Gateway.Key
import SignOnGate.Gateway.Memory
import SignOnGate.Plugin.Escape
import SignOnGate.Request

/-!
# Resolvers of login attempts

A resolver remembers that a silent login attempt was made for a service URL, and recognises the
return visit once: `consume` takes out what `remember` has stored. The attempts are kept in the
session, or in the shared store under the id of the session and the digest of the key, or not at
all; a plugin may keep them in any other way.
-/

namespace SignOnGate

namespace Gateway

/-- The session key of the attempts, unless another one is configured. -/
def attemptsKey : Text := "_const_cas_gateway_".toList

/-- The session key of the id under which a session is known to the shared store. -/
def sessionIdKey : Text := "_const_cas_gateway_sid_".toList

/-- What the shared store holds for an attempt. -/
def sharedMark : Text := ['1']

/-- Why an attempt could not be consumed or remembered. -/
inductive Fault where
  /-- There is no session to remember the attempt in. -/
  | sessionRequired (url : Text)
  /-- The attempts in the session cannot be read. -/
  | damaged (damage : DamagedAttempts)
  /-- The URL of the request cannot be read. -/
  | unreadable (cause : UnreadableUrl)
  /-- A plugin failed. -/
  | escaped (escape : Escape)
  deriving Repr, DecidableEq

/-- The words for a missing session. -/
def sessionRequiredMessage : Text :=
  "Gateway mode requires a session to remember the attempt".toList

/-- A step of a resolver: its answer or its fault, and what is remembered after it. -/
abbrev Step (α : Type) := Except Fault α × Memory

/-- The operations of a resolver that is a plugin. -/
structure CustomResolver where
  consume : Request → Text → Memory → Step Bool
  remember : Request → Text → Fresh → Memory → Step Text

/-- How login attempts are remembered. -/
inductive Resolver where
  /-- In the session, under the given key. -/
  | session (key : Text)
  /-- In the shared store, for a number of seconds, under keys that begin with the given text. -/
  | shared (seconds : Int) (keyStart : Text)
  /-- Not at all. -/
  | forgetful
  /-- By a plugin, which may lack the operations. -/
  | custom (className : Text) (operations : Option CustomResolver)

namespace Resolver

/-- The resolver that is used unless another one is configured. -/
def standard : Resolver := .session attemptsKey

/-- The key of an attempt in the shared store. -/
def sharedKey (keyStart sessionId serviceUrl : Text) : Text :=
  keyStart ++ sessionId ++ ':' :: Sha256.hex (key serviceUrl)

/-- The fault of a request without a session. -/
def withoutSession (request : Request) : Fault :=
  match request.url with
  | .ok url => .sessionRequired url
  | .error cause => .unreadable cause

/-- The id under which a session is known to the shared store. -/
def sessionId? (session : Session) : Option Text :=
  match session.get? sessionIdKey with
  | some value => if value.isSet then some value.display else none
  | none => none

/-- Consumes an attempt that is kept in the session. -/
def consumeInSession (attemptsKey serviceUrl : Text) (session : Session) : Bool × Session :=
  match session.get? attemptsKey with
  | some (.map entries) =>
    let attempts : Attempts := ⟨entries⟩
    let key := key serviceUrl
    (Attempts.marked attempts key, Attempts.store (attempts.erase key) session attemptsKey)
  | _ => (false, session)

/-- Keeps an attempt in the session. -/
def rememberInSession (attemptsKey serviceUrl mark : Text) (session : Session) :
    Except DamagedAttempts Session :=
  match Attempts.ofSession session attemptsKey with
  | .error damage => .error damage
  | .ok attempts =>
    .ok (session.put attemptsKey (.map (attempts.put (key serviceUrl) (.text mark)).entries))

/-- Consumes the attempt for a service URL, and tells whether there was one. -/
def consume (resolver : Resolver) (request : Request) (serviceUrl : Text) (memory : Memory) :
    Step Bool :=
  match resolver with
  | .session attemptsKey =>
    match memory.session with
    | none => (.ok false, memory)
    | some current =>
      let result := consumeInSession attemptsKey serviceUrl current
      (.ok result.1, { memory with session := some result.2 })
  | .shared _ keyStart =>
    match memory.session.bind sessionId? with
    | none => (.ok false, memory)
    | some sessionId =>
      let key := sharedKey keyStart sessionId serviceUrl
      (.ok (memory.shared.contains key), { memory with shared := memory.shared.erase key })
  | .forgetful => (.ok false, memory)
  | .custom _ (some operations) => operations.consume request serviceUrl memory
  | .custom _ none => (.error (.escaped .missingOperation), memory)

/-- Remembers an attempt for a service URL, and gives the URL that the client is sent with. -/
def remember (resolver : Resolver) (request : Request) (serviceUrl : Text) (fresh : Fresh)
    (memory : Memory) : Step Text :=
  match resolver with
  | .session attemptsKey =>
    match memory.session with
    | none => (.error (withoutSession request), memory)
    | some current =>
      match rememberInSession attemptsKey serviceUrl fresh.mark current with
      | .error damage => (.error (.damaged damage), memory)
      | .ok updated => (.ok serviceUrl, { memory with session := some updated })
  | .shared seconds keyStart =>
    match memory.session with
    | none => (.error (withoutSession request), memory)
    | some current =>
      let sessionId := (sessionId? current).getD fresh.sessionId
      let updated :=
        if (sessionId? current).isSome then current
        else current.put sessionIdKey (.text fresh.sessionId)
      let shared := memory.shared.put (sharedKey keyStart sessionId serviceUrl)
        { content := sharedMark, seconds }
      (.ok serviceUrl, { session := some updated, shared })
  | .forgetful => (.ok serviceUrl, memory)
  | .custom _ (some operations) => operations.remember request serviceUrl fresh memory
  | .custom _ none => (.error (.escaped .missingOperation), memory)

/-- The class name that a resolver is shown under. -/
def className : Resolver → Text
  | .session _ => "SessionGatewayResolver".toList
  | .shared _ _ => "RedisGatewayResolver".toList
  | .forgetful => "NullGatewayResolver".toList
  | .custom className _ => className

end Resolver

end Gateway

end SignOnGate
