import SignOnGate.Proofs.Gateway.Awaits
import SignOnGate.Proofs.Gateway.SharedStore

/-!
# What a resolver leaves alone

A resolver has one entry of the session to itself, and in the shared store the keys that begin with
its own start and the id of the session. `Confined` says that everything else is as it was. A visit
consumes first and may remember afterwards; both steps together are confined as well, because the id
under which they work is the same: the one that the session has, or else the one that it is given.
-/

namespace SignOnGate

namespace Gateway

namespace Resolver

/-- The session key of the entry that a resolver has to itself. -/
def ownKey? : Resolver → Option Text
  | .session attemptsKey => some attemptsKey
  | .shared _ _ => some sessionIdKey
  | .forgetful => none
  | .custom _ _ => none

/-- The id of a session during a visit: the one that it has, or else the one that it is given. -/
def visitId? (before after : Memory) : Option Text :=
  (before.session.bind sessionId?).or ((after.sessionValue? sessionIdKey).map Value.display)

/-- A key of the shared store that belongs to a resolver and the session of a visit. -/
def Owns (resolver : Resolver) (before after : Memory) (storeKey : Text) : Prop :=
  ∃ seconds keyStart sessionId, resolver = .shared seconds keyStart ∧
    visitId? before after = some sessionId ∧ keyStart ++ sessionId ++ [':'] <+: storeKey

/-- Whatever is not a resolver's own is the same before and after a visit. -/
structure Confined (resolver : Resolver) (before after : Memory) : Prop where
  session_eq_none_iff : after.session = none ↔ before.session = none
  others : ∀ other, resolver.ownKey? ≠ some other →
    after.sessionValue? other = before.sessionValue? other
  shared : ∀ storeKey, after.shared.get? storeKey ≠ before.shared.get? storeKey →
    resolver.Owns before after storeKey

variable {resolver : Resolver} {memory : Memory}

theorem Confined.refl (resolver : Resolver) (memory : Memory) :
    resolver.Confined memory memory := by
  refine ⟨Iff.rfl, fun other _ => rfl, ?_⟩
  intro storeKey changed
  exact absurd rfl changed

/-- A step that leaves the shared store alone is confined by what it does to the session. -/
theorem Confined.of_shared_eq {before after : Memory} (same : after.shared = before.shared)
    (session_eq_none_iff : after.session = none ↔ before.session = none)
    (others : ∀ other, resolver.ownKey? ≠ some other →
      after.sessionValue? other = before.sessionValue? other) : resolver.Confined before after := by
  refine ⟨session_eq_none_iff, others, ?_⟩
  intro storeKey changed
  rw [same] at changed
  exact absurd rfl changed

/-- A step on the shared store is confined if it works on the key of the session's own id only. -/
theorem Confined.of_sharedKey {seconds : Int} {keyStart : Text} {before after : Memory}
    (sessionId serviceUrl : Text) (known : visitId? before after = some sessionId)
    (session_eq_none_iff : after.session = none ↔ before.session = none)
    (others : ∀ other, other ≠ sessionIdKey →
      after.sessionValue? other = before.sessionValue? other)
    (kept : ∀ storeKey, storeKey ≠ sharedKey keyStart sessionId serviceUrl →
      after.shared.get? storeKey = before.shared.get? storeKey) :
    (Resolver.shared seconds keyStart).Confined before after := by
  refine ⟨session_eq_none_iff, ?_, ?_⟩
  · intro other notOwn
    apply others
    rintro rfl
    exact notOwn rfl
  · intro storeKey changed
    have isKey : storeKey = sharedKey keyStart sessionId serviceUrl := by
      by_contra different
      exact changed (kept storeKey different)
    refine ⟨seconds, keyStart, sessionId, rfl, known, Sha256.hex (key serviceUrl), ?_⟩
    simp [isKey, sharedKey]

theorem shared_consume_session (attemptsKey : Text) (request : Request) (serviceUrl : Text)
    (memory : Memory) :
    ((session attemptsKey).consume request serviceUrl memory).2.shared = memory.shared := by
  simp only [consume]
  split <;> rfl

theorem shared_remember_session (attemptsKey : Text) (request : Request) (serviceUrl : Text)
    (fresh : Fresh) (memory : Memory) :
    ((session attemptsKey).remember request serviceUrl fresh memory).2.shared = memory.shared := by
  simp only [remember]
  split
  · rfl
  · split <;> rfl

theorem session_remember_eq_none_iff (attemptsKey : Text) (request : Request) (serviceUrl : Text)
    (fresh : Fresh) (memory : Memory) :
    ((session attemptsKey).remember request serviceUrl fresh memory).2.session = none ↔
      memory.session = none := by
  simp only [remember]
  split
  · rfl
  · rename_i current found
    split <;> simp [found]

/-- Consuming is confined to the entries of the resolver. -/
theorem confined_consume (builtIn : resolver.BuiltIn) (request : Request) (serviceUrl : Text)
    (memory : Memory) :
    resolver.Confined memory (resolver.consume request serviceUrl memory).2 := by
  cases resolver with
  | session attemptsKey =>
      apply Confined.of_shared_eq
      · exact shared_consume_session attemptsKey request serviceUrl memory
      · exact session_consume_eq_none_iff attemptsKey request serviceUrl memory
      · intro other notOwn
        apply sessionValue?_consume_of_ne
        rintro rfl
        exact notOwn rfl
  | shared seconds keyStart =>
      have sameSession := session_consume_shared seconds keyStart request serviceUrl memory
      cases known : memory.session.bind sessionId? with
      | none =>
          simp only [consume, known]
          exact Confined.refl _ memory
      | some sessionId =>
          apply Confined.of_sharedKey sessionId serviceUrl
          · simp [visitId?, known]
          · rw [sameSession]
          · intro other different
            rw [Memory.sessionValue?, sameSession, Memory.sessionValue?]
          · intro storeKey different
            simp only [consume, known]
            exact OrderedMap.get?_erase_of_ne _ different
  | forgetful => exact Confined.refl _ memory
  | custom className operations => exact absurd builtIn id

/-- Consuming and then remembering an attempt is confined, also when the session gets its id. -/
theorem confined_remember (builtIn : resolver.BuiltIn) (request : Request) (serviceUrl : Text)
    (fresh : Fresh) (memory : Memory) :
    resolver.Confined memory (resolver.remember request serviceUrl fresh
      (resolver.consume request serviceUrl memory).2).2 := by
  cases resolver with
  | session attemptsKey =>
      apply Confined.of_shared_eq
      · rw [shared_remember_session, shared_consume_session]
      · rw [session_remember_eq_none_iff, session_consume_eq_none_iff]
      · intro other notOwn
        have different : other ≠ attemptsKey := by
          rintro rfl
          exact notOwn rfl
        rw [sessionValue?_remember_of_ne serviceUrl different,
          sessionValue?_consume_of_ne serviceUrl different]
  | shared seconds keyStart =>
      obtain ⟨session?, store⟩ := memory
      cases session? with
      | none => exact Confined.refl _ _
      | some current =>
          cases known : sessionId? current with
          | some sessionId =>
              -- Both steps work on the one key of this id and this attempt.
              simp only [consume, remember, Option.bind_some, known, Option.getD_some,
                Option.isSome_some, if_true]
              apply Confined.of_sharedKey sessionId serviceUrl
              · simp [visitId?, known]
              · simp
              · exact fun other _ => rfl
              · intro storeKey different
                rw [OrderedMap.get?_put_of_ne _ _ different,
                  OrderedMap.get?_erase_of_ne _ different]
          | none =>
              simp only [consume, remember, Option.bind_some, known, Option.getD_none,
                Option.isSome_none, Bool.false_eq_true, if_false]
              apply Confined.of_sharedKey fresh.sessionId serviceUrl
              · simp [visitId?, known, Memory.sessionValue?, Value.display]
              · simp
              · exact fun other different => OrderedMap.get?_put_of_ne current _ different
              · exact fun storeKey different => OrderedMap.get?_put_of_ne _ _ different
  | forgetful => exact Confined.refl _ memory
  | custom className operations => exact absurd builtIn id

end Resolver

end Gateway

end SignOnGate
