import Mathlib.Tactic.Common
import SignOnGate.Proofs.Gateway.Stored

/-!
# What a resolver waits for

`Awaits` says that a resolver keeps an attempt, and `CanKeep` that it is able to keep one; both look
at the memory only. Consuming answers whether the attempt is awaited. Remembering makes the attempt
awaited where it can be kept, and otherwise fails without a trace. Plugins are left out: what they
do is up to them.
-/

namespace SignOnGate

namespace Gateway

namespace Resolver

/-- The resolvers that are no plugins. -/
def BuiltIn : Resolver → Prop
  | .custom _ _ => False
  | _ => True

theorem builtIn_session (attemptsKey : Text) : (session attemptsKey).BuiltIn := trivial

theorem builtIn_shared (seconds : Int) (keyStart : Text) : (shared seconds keyStart).BuiltIn :=
  trivial

/-- A resolver awaits the return visit for an attempt. -/
def Awaits (resolver : Resolver) (memory : Memory) (attempt : Text) : Prop :=
  match resolver with
  | .session attemptsKey =>
      ∃ attempts : Attempts, memory.sessionValue? attemptsKey = some (.map attempts.entries) ∧
        attempts.marked attempt = true
  | .shared _ keyStart =>
      ∃ sessionId, memory.session.bind sessionId? = some sessionId ∧
        memory.shared.contains (keyStart ++ sessionId ++ ':' :: Sha256.hex attempt) = true
  | .forgetful => False
  | .custom _ _ => False

/-- A resolver finds a session that it can keep an attempt for. -/
def CanKeep (resolver : Resolver) (memory : Memory) : Prop :=
  ∃ session, memory.session = some session ∧
    match resolver with
    | .session attemptsKey => ∃ attempts, Attempts.ofSession session attemptsKey = .ok attempts
    | .shared _ _ => True
    | .forgetful => False
    | .custom _ _ => False

variable {resolver : Resolver} {request : Request} {serviceUrl : Text} {fresh : Fresh}
  {memory : Memory}

theorem sharedKey_eq (keyStart sessionId serviceUrl : Text) :
    sharedKey keyStart sessionId serviceUrl =
      keyStart ++ sessionId ++ ':' :: Sha256.hex (key serviceUrl) := rfl

/-! ## Reading the session -/

/-- An attempt is recognised exactly if the session has a map with a mark under its key. -/
theorem consumeInSession_eq_true_iff (attemptsKey serviceUrl : Text) (session : Session) :
    (consumeInSession attemptsKey serviceUrl session).1 = true ↔
      ∃ attempts : Attempts, session.get? attemptsKey = some (.map attempts.entries) ∧
        attempts.marked (key serviceUrl) = true := by
  rw [consumeInSession]
  split
  · rename_i entries found
    rw [found]
    constructor
    · intro marked
      exact ⟨⟨entries⟩, rfl, marked⟩
    · rintro ⟨attempts, same, marked⟩
      cases same
      exact marked
  · rename_i noMap
    constructor
    · intro impossible
      cases impossible
    · rintro ⟨attempts, found, -⟩
      exact absurd found (noMap attempts.entries)

/-- A map in a session can always be read, and anything else is left alone by consuming. -/
theorem ofSession_map {session : Session} {attemptsKey : Text} {entries : List (Text × Value)}
    (found : session.get? attemptsKey = some (.map entries)) :
    ∃ attempts, Attempts.ofSession session attemptsKey = .ok attempts := by
  simp only [Attempts.ofSession, found, Attempts.ofValue]
  split
  · exact ⟨_, rfl⟩
  · exact ⟨_, rfl⟩

/-- Consuming neither damages attempts nor repairs them. -/
theorem ofSession_consumeInSession (attemptsKey serviceUrl : Text) (session : Session) :
    (∃ attempts, Attempts.ofSession (consumeInSession attemptsKey serviceUrl session).2
        attemptsKey = .ok attempts) ↔
      ∃ attempts, Attempts.ofSession session attemptsKey = .ok attempts := by
  rw [consumeInSession]
  split
  · rename_i entries found
    refine ⟨fun _ => ofSession_map found, fun _ => ?_⟩
    simp only [Attempts.store]
    split
    · refine ⟨.empty, ?_⟩
      simp [Attempts.ofSession]
    · exact ofSession_map (OrderedMap.get?_put_self _ _ _)
  · rfl

/-! ## Consuming -/

/-- Consuming tells whether the attempt is awaited. -/
theorem exists_consume (builtIn : resolver.BuiltIn) (request : Request) (serviceUrl : Text)
    (memory : Memory) :
    ∃ returning consumed, resolver.consume request serviceUrl memory = (.ok returning, consumed) ∧
      (returning = true ↔ resolver.Awaits memory (key serviceUrl)) := by
  cases resolver with
  | session attemptsKey =>
      simp only [consume, Awaits, Memory.sessionValue?]
      split
      · rename_i noSession
        exact ⟨false, memory, rfl, by simp [noSession]⟩
      · rename_i session found
        refine ⟨_, _, rfl, ?_⟩
        rw [found, Option.bind_some]
        exact consumeInSession_eq_true_iff attemptsKey serviceUrl session
  | shared seconds keyStart =>
      simp only [consume, Awaits]
      split
      · rename_i noId
        exact ⟨false, memory, rfl, by simp [noId]⟩
      · rename_i sessionId found
        refine ⟨_, _, rfl, ?_⟩
        simp [found, sharedKey_eq]
  | forgetful => exact ⟨false, memory, rfl, by simp [Awaits]⟩
  | custom className operations => exact absurd builtIn id

theorem awaits_iff_of_consume (builtIn : resolver.BuiltIn) {returning : Bool} {consumed : Memory}
    (consume : resolver.consume request serviceUrl memory = (.ok returning, consumed)) :
    returning = true ↔ resolver.Awaits memory (key serviceUrl) := by
  rcases exists_consume builtIn request serviceUrl memory with ⟨answer, left, run, awaits⟩
  rw [consume, Prod.mk.injEq, Except.ok.injEq] at run
  rw [run.1]
  exact awaits

theorem not_consume_error (builtIn : resolver.BuiltIn) {fault : Fault} {consumed : Memory} :
    resolver.consume request serviceUrl memory ≠ (.error fault, consumed) := by
  rcases exists_consume builtIn request serviceUrl memory with ⟨answer, left, run, -⟩
  simp [run]

/-- Consuming does not change whether an attempt can be kept. -/
theorem canKeep_consume (request : Request) (serviceUrl : Text) (memory : Memory)
    (builtIn : resolver.BuiltIn) :
    resolver.CanKeep (resolver.consume request serviceUrl memory).2 ↔ resolver.CanKeep memory := by
  cases resolver with
  | session attemptsKey =>
      simp only [consume, CanKeep]
      split
      · rfl
      · rename_i session found
        simp [found, ofSession_consumeInSession]
  | shared seconds keyStart =>
      simp only [consume, CanKeep]
      split <;> rfl
  | forgetful => rfl
  | custom className operations => exact absurd builtIn id

/-- Where nothing can be kept, there is nothing to consume. -/
theorem consume_of_not_canKeep (builtIn : resolver.BuiltIn) (cannot : ¬resolver.CanKeep memory) :
    resolver.consume request serviceUrl memory = (.ok false, memory) := by
  obtain ⟨session?, shared⟩ := memory
  cases resolver with
  | session attemptsKey =>
      cases session? with
      | none => rfl
      | some session =>
          simp only [consume, consumeInSession]
          split
          · rename_i entries found
            exact absurd ⟨session, rfl, ofSession_map found⟩ cannot
          · rfl
  | shared seconds keyStart =>
      cases session? with
      | none => rfl
      | some session => exact absurd ⟨session, rfl, trivial⟩ cannot
  | forgetful => rfl
  | custom className operations => exact absurd builtIn id

theorem session_consume_eq_none_iff (attemptsKey : Text) (request : Request) (serviceUrl : Text)
    (memory : Memory) :
    ((Resolver.session attemptsKey).consume request serviceUrl memory).2.session = none ↔
      memory.session = none := by
  simp only [consume]
  split
  · rfl
  · rename_i session found
    simp [found]

/-! ## Remembering -/

/-- Where an attempt can be kept, it is kept, and the client is sent with the service URL itself. -/
theorem remember_of_canKeep (canKeep : resolver.CanKeep memory) (request : Request)
    (serviceUrl : Text) (fresh : Fresh) :
    ∃ left, resolver.remember request serviceUrl fresh memory = (.ok serviceUrl, left) ∧
      resolver.CanKeep left := by
  obtain ⟨session?, shared⟩ := memory
  rcases canKeep with ⟨session, rfl, keeps⟩
  cases resolver with
  | session attemptsKey =>
      rcases keeps with ⟨attempts, read⟩
      simp only [remember, rememberInSession, read]
      exact ⟨_, rfl, _, rfl, ofSession_map (OrderedMap.get?_put_self _ _ _)⟩
  | shared seconds keyStart =>
      simp only [remember]
      exact ⟨_, rfl, _, rfl, trivial⟩
  | forgetful => exact absurd keeps id
  | custom className operations => exact absurd keeps id

/-- An attempt that has been kept is awaited. -/
theorem awaits_of_remember (canKeep : resolver.CanKeep memory) (minted : fresh.sessionId ≠ [])
    {settled : Text} {left : Memory}
    (kept : resolver.remember request serviceUrl fresh memory = (.ok settled, left)) :
    resolver.Awaits left (key serviceUrl) := by
  obtain ⟨session?, shared⟩ := memory
  rcases canKeep with ⟨session, rfl, keeps⟩
  cases resolver with
  | session attemptsKey =>
      rcases keeps with ⟨attempts, read⟩
      simp only [remember, rememberInSession, read, Prod.mk.injEq] at kept
      rw [← kept.2]
      refine ⟨_, OrderedMap.get?_put_self _ _ _, ?_⟩
      rw [Attempts.marked_eq_true_iff]
      exact ⟨_, OrderedMap.get?_put_self _ _ _, by simp⟩
  | shared seconds keyStart =>
      simp only [remember, Prod.mk.injEq] at kept
      rw [← kept.2]
      cases known : sessionId? session with
      | some sessionId =>
          refine ⟨sessionId, by simp [known], ?_⟩
          simp [OrderedMap.contains, sharedKey_eq]
      | none =>
          refine ⟨fresh.sessionId, by simp [sessionId?, Value.isSet, Value.display, minted], ?_⟩
          simp [OrderedMap.contains, sharedKey_eq]
  | forgetful => exact absurd keeps id
  | custom className operations => exact absurd keeps id

/-- Where an attempt cannot be kept, remembering it leaves no trace. -/
theorem remember_of_not_canKeep (builtIn : resolver.BuiltIn) (cannot : ¬resolver.CanKeep memory)
    (request : Request) (serviceUrl : Text) (fresh : Fresh) :
    (resolver.remember request serviceUrl fresh memory).2 = memory := by
  obtain ⟨session?, shared⟩ := memory
  cases resolver with
  | session attemptsKey =>
      cases session? with
      | none => rfl
      | some session =>
          simp only [remember]
          split
          · rfl
          · rename_i updated remembered
            simp only [rememberInSession] at remembered
            split at remembered
            · cases remembered
            · rename_i attempts read
              exact absurd ⟨session, rfl, attempts, read⟩ cannot
  | shared seconds keyStart =>
      cases session? with
      | none => rfl
      | some session => exact absurd ⟨session, rfl, trivial⟩ cannot
  | forgetful => rfl
  | custom className operations => exact absurd builtIn id

/-- Consuming and remembering leave no trace where nothing can be kept. -/
theorem left_eq_of_not_canKeep (builtIn : resolver.BuiltIn) {returning : Bool}
    {answer : Except Fault Text} {consumed left : Memory}
    (consume : resolver.consume request serviceUrl memory = (.ok returning, consumed))
    (remember : resolver.remember request serviceUrl fresh consumed = (answer, left))
    (cannot : ¬resolver.CanKeep consumed) : left = memory := by
  have cannotBefore : ¬resolver.CanKeep memory := by
    rwa [← canKeep_consume request serviceUrl memory builtIn, consume]
  have unchanged : consumed = memory := by
    rw [consume_of_not_canKeep builtIn cannotBefore] at consume
    cases consume
    rfl
  have traceless := remember_of_not_canKeep builtIn cannot request serviceUrl fresh
  rw [remember] at traceless
  exact traceless.trans unchanged

/--
Whether remembering succeeds, and with which URL, does not depend on the values that are minted.
-/
theorem remember_result_eq (builtIn : resolver.BuiltIn) (request : Request) (serviceUrl : Text)
    (fresh other : Fresh) (memory : Memory) :
    (resolver.remember request serviceUrl fresh memory).1 =
      (resolver.remember request serviceUrl other memory).1 := by
  obtain ⟨session?, shared⟩ := memory
  cases resolver with
  | session attemptsKey =>
      cases session? with
      | none => rfl
      | some session =>
          simp only [remember, rememberInSession]
          cases Attempts.ofSession session attemptsKey <;> rfl
  | shared seconds keyStart => cases session? <;> rfl
  | forgetful => rfl
  | custom className operations => exact absurd builtIn id

end Resolver

end Gateway

end SignOnGate
