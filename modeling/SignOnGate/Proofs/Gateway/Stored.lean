import Mathlib.Data.Set.Insert
import Mathlib.Order.BooleanAlgebra.Set
import SignOnGate.Gateway.Resolver
import SignOnGate.Proofs.OrderedMap

/-!
# Attempts in a session as a set

What a session says about attempts is a set of keys. `Attempts.Stored` ties the value that stands in
the session to that set: no value for the empty set, otherwise a map whose keys are exactly the set
and whose marks all count. Consuming takes a key out of the set and tells whether it was there,
remembering puts one in, and neither touches any other entry of the session.
-/

namespace SignOnGate

namespace Attempts

/-- The value in a session that stands for a set of attempts. -/
inductive Stored : Option Value → Set Text → Prop where
  | absent : Stored none ∅
  | present (attempts : Attempts) (pending : Set Text) (nonempty : pending.Nonempty)
      (keys : ∀ attempt, attempt ∈ attempts.keys ↔ attempt ∈ pending)
      (marks : ∀ attempt, attempts.get? attempt ≠ some .null) :
      Stored (some (.map attempts.entries)) pending

/-- An attempt is marked by any value but null. -/
theorem marked_eq_true_iff (attempts : Attempts) (attempt : Text) :
    attempts.marked attempt = true ↔
      ∃ mark, attempts.get? attempt = some mark ∧ mark ≠ .null := by
  rw [marked]
  split
  · simp_all
  · simp_all
  · rename_i mark notNull found
    simp only [found, Option.some.injEq, exists_eq_left', true_iff]
    exact notNull

theorem marked_iff_mem_keys {attempts : Attempts}
    (marks : ∀ attempt, attempts.get? attempt ≠ some .null) (attempt : Text) :
    attempts.marked attempt = true ↔ attempt ∈ attempts.keys := by
  rw [marked_eq_true_iff, OrderedMap.mem_keys_iff]
  constructor
  · rintro ⟨mark, found, -⟩
    exact ⟨mark, found⟩
  · rintro ⟨mark, found⟩
    refine ⟨mark, found, ?_⟩
    rintro rfl
    exact marks attempt found

/-- Storing attempts stands for their keys, also when there are none. -/
theorem stored_store {attempts : Attempts} {pending : Set Text} (session : Session)
    (attemptsKey : Text) (keys : ∀ attempt, attempt ∈ attempts.keys ↔ attempt ∈ pending)
    (marks : ∀ attempt, attempts.get? attempt ≠ some .null) :
    Stored ((attempts.store session attemptsKey).get? attemptsKey) pending := by
  rw [store]
  split
  · rename_i empty
    rw [OrderedMap.isEmpty_eq_true_iff] at empty
    have nothing : pending = ∅ := by
      ext attempt
      simp [← keys, empty]
    rw [OrderedMap.get?_erase_self, nothing]
    exact .absent
  · rename_i filled
    rw [OrderedMap.isEmpty_eq_true_iff] at filled
    rw [OrderedMap.get?_put_self]
    obtain ⟨attempt, member⟩ := List.exists_mem_of_ne_nil _ filled
    exact .present attempts pending ⟨attempt, (keys attempt).mp member⟩ keys marks

theorem get?_store_of_ne (attempts : Attempts) (session : Session) {attemptsKey other : Text}
    (different : other ≠ attemptsKey) :
    (attempts.store session attemptsKey).get? other = session.get? other := by
  rw [store]
  split
  · exact OrderedMap.get?_erase_of_ne session different
  · exact OrderedMap.get?_put_of_ne session _ different

/-- A value that stands for a set is read as a map with exactly that set of keys. -/
theorem Stored.ofSession {session : Session} {attemptsKey : Text} {pending : Set Text}
    (stored : Stored (session.get? attemptsKey) pending) :
    ∃ attempts : Attempts, ofSession session attemptsKey = .ok attempts ∧
      (∀ attempt, attempt ∈ attempts.keys ↔ attempt ∈ pending) ∧
      ∀ attempt, attempts.get? attempt ≠ some .null := by
  generalize found : session.get? attemptsKey = value at stored
  cases stored with
  | absent =>
      refine ⟨.empty, by simp [Attempts.ofSession, found], ?_, ?_⟩
      · simp [OrderedMap.keys, OrderedMap.empty]
      · simp
  | present attempts pending nonempty keys marks =>
      refine ⟨attempts, ?_, keys, marks⟩
      have filled : attempts.entries ≠ [] := by
        rcases nonempty with ⟨attempt, member⟩
        intro empty
        simpa [OrderedMap.keys, empty] using (keys attempt).mpr member
      simp [Attempts.ofSession, ofValue, Value.isSet, found, filled]

end Attempts

namespace Gateway

namespace Resolver

open Attempts

variable {session : Session} {attemptsKey : Text} {pending : Set Text}

theorem consumeInSession_iff (stored : Stored (session.get? attemptsKey) pending)
    (serviceUrl : Text) :
    (consumeInSession attemptsKey serviceUrl session).1 = true ↔ key serviceUrl ∈ pending := by
  generalize found : session.get? attemptsKey = value at stored
  cases stored with
  | absent => simp [consumeInSession, found]
  | present attempts pending nonempty keys marks =>
      simp only [consumeInSession, found]
      rw [← keys, ← marked_iff_mem_keys marks]

/-- After an attempt has been consumed, it is no longer pending, and all others are as before. -/
theorem stored_consumeInSession (stored : Stored (session.get? attemptsKey) pending)
    (serviceUrl : Text) :
    Stored ((consumeInSession attemptsKey serviceUrl session).2.get? attemptsKey)
      (pending \ {key serviceUrl}) := by
  generalize found : session.get? attemptsKey = value at stored
  cases stored with
  | absent =>
      simp only [consumeInSession, found, Set.empty_sdiff]
      exact .absent
  | present attempts pending nonempty keys marks =>
      simp only [consumeInSession, found]
      apply stored_store
      · intro attempt
        rw [OrderedMap.mem_keys_erase, keys, Set.mem_sdiff, Set.mem_singleton_iff]
        exact and_comm
      · intro attempt
        rw [OrderedMap.get?_erase]
        split
        · simp
        · exact marks attempt

theorem get?_consumeInSession_of_ne (serviceUrl : Text) {other : Text}
    (different : other ≠ attemptsKey) :
    (consumeInSession attemptsKey serviceUrl session).2.get? other = session.get? other := by
  rw [consumeInSession]
  split
  · exact get?_store_of_ne _ session different
  · rfl

/-- Remembering succeeds on a session that stands for a set, and adds to the set. -/
theorem stored_rememberInSession (stored : Stored (session.get? attemptsKey) pending)
    (serviceUrl mark : Text) :
    ∃ updated, rememberInSession attemptsKey serviceUrl mark session = .ok updated ∧
      Stored (updated.get? attemptsKey) (insert (key serviceUrl) pending) := by
  rcases stored.ofSession with ⟨attempts, read, keys, marks⟩
  refine ⟨_, by rw [rememberInSession, read], ?_⟩
  rw [OrderedMap.get?_put_self]
  apply Stored.present
  · exact ⟨key serviceUrl, Set.mem_insert _ _⟩
  · intro attempt
    rw [OrderedMap.mem_keys_put, keys, Set.mem_insert_iff]
  · intro attempt
    rw [OrderedMap.get?_put]
    split
    · simp
    · exact marks attempt

theorem get?_rememberInSession_of_ne {serviceUrl mark other : Text} {updated : Session}
    (remembered : rememberInSession attemptsKey serviceUrl mark session = .ok updated)
    (different : other ≠ attemptsKey) : updated.get? other = session.get? other := by
  rw [rememberInSession] at remembered
  split at remembered
  · cases remembered
  · cases remembered
    exact OrderedMap.get?_put_of_ne session _ different

variable {request : Request} {fresh : Fresh} {memory : Memory}

/-- Consuming answers whether the attempt is in the set, and takes it out. -/
theorem stored_of_consume (stored : Stored (memory.sessionValue? attemptsKey) pending)
    {serviceUrl : Text} {returning : Bool} {consumed : Memory}
    (consume : (Resolver.session attemptsKey).consume request serviceUrl memory =
      (.ok returning, consumed)) :
    (returning = true ↔ key serviceUrl ∈ pending) ∧
      Stored (consumed.sessionValue? attemptsKey) (pending \ {key serviceUrl}) := by
  obtain ⟨session?, shared⟩ := memory
  cases session? with
  | none =>
      cases consume
      simp only [Memory.sessionValue?, Option.bind_none] at stored
      cases stored
      refine ⟨by simp, ?_⟩
      rw [Set.empty_sdiff]
      exact .absent
  | some session =>
      cases consume
      exact ⟨consumeInSession_iff stored serviceUrl, stored_consumeInSession stored serviceUrl⟩

/-- Remembering succeeds where there is a session, and puts the attempt into the set. -/
theorem exists_remember_of_stored (stored : Stored (memory.sessionValue? attemptsKey) pending)
    (present : memory.session ≠ none) (request : Request) (serviceUrl : Text) (fresh : Fresh) :
    ∃ left, (Resolver.session attemptsKey).remember request serviceUrl fresh memory =
        (.ok serviceUrl, left) ∧ left.session ≠ none ∧
      Stored (left.sessionValue? attemptsKey) (insert (key serviceUrl) pending) := by
  obtain ⟨session?, shared⟩ := memory
  cases session? with
  | none => exact absurd rfl present
  | some session =>
      rcases stored_rememberInSession stored serviceUrl fresh.mark with
        ⟨updated, remembered, storedAfter⟩
      refine ⟨{ session := some updated, shared }, ?_, by simp, storedAfter⟩
      simp only [remember, remembered]

/-- Wherever remembering succeeds, the attempt is in the set afterwards. -/
theorem stored_of_remember (stored : Stored (memory.sessionValue? attemptsKey) pending)
    {serviceUrl settled : Text} {left : Memory}
    (kept : (Resolver.session attemptsKey).remember request serviceUrl fresh memory =
      (.ok settled, left)) :
    settled = serviceUrl ∧
      Stored (left.sessionValue? attemptsKey) (insert (key serviceUrl) pending) := by
  have present : memory.session ≠ none := by
    intro absent
    simp [remember, absent] at kept
  rcases exists_remember_of_stored stored present request serviceUrl fresh with
    ⟨after, run, -, storedAfter⟩
  rw [kept] at run
  cases run
  exact ⟨rfl, storedAfter⟩

theorem sessionValue?_consume_of_ne (serviceUrl : Text) {other : Text}
    (different : other ≠ attemptsKey) :
    ((Resolver.session attemptsKey).consume request serviceUrl memory).2.sessionValue? other =
      memory.sessionValue? other := by
  obtain ⟨session?, shared⟩ := memory
  cases session? with
  | none => rfl
  | some session => exact get?_consumeInSession_of_ne serviceUrl different

/-- Remembering an attempt leaves all other entries of the session alone. -/
theorem sessionValue?_remember_of_ne (serviceUrl : Text) {other : Text}
    (different : other ≠ attemptsKey) :
    ((Resolver.session attemptsKey).remember request serviceUrl fresh memory).2.sessionValue?
        other =
      memory.sessionValue? other := by
  obtain ⟨session?, shared⟩ := memory
  cases session? with
  | none => rfl
  | some session =>
      cases remembered : rememberInSession attemptsKey serviceUrl fresh.mark session with
      | error damage => simp [remember, remembered]
      | ok updated =>
          simp only [remember, remembered]
          exact get?_rememberInSession_of_ne remembered different

end Resolver

end Gateway

end SignOnGate
