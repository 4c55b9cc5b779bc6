import Mathlib.Tactic.Common
import SignOnGate.Proofs.Gateway.Awaits
import SignOnGate.Proofs.Text.Ascii

/-!
# The key space of the shared store

All clients share one flat store, whose keys are composed of a start, the id of a session and the
digest of an attempt. Digests all have one length, so that a composed key tells id and digest
whatever characters the id may have. Consuming and remembering then change what is kept for one id
and one digest only.
-/

namespace SignOnGate

namespace Sha256

@[simp]
theorem length_hex (text : Text) : (hex text).length = 64 := by
  simp [hex]

end Sha256

namespace Gateway

namespace Resolver

/-- A composed key can be taken apart, whatever the id looks like. -/
theorem composed_inj {keyStart id otherId : Text} {attempt otherAttempt : Text}
    (same : keyStart ++ id ++ ':' :: Sha256.hex attempt =
      keyStart ++ otherId ++ ':' :: Sha256.hex otherAttempt) :
    id = otherId ∧ Sha256.hex attempt = Sha256.hex otherAttempt := by
  have parts := List.append_inj' same (by simp)
  exact ⟨List.append_cancel_left parts.1, (List.cons.inj parts.2).2⟩

variable {seconds : Int} {keyStart : Text} {request : Request} {serviceUrl : Text} {fresh : Fresh}
  {memory : Memory}

theorem session_consume_shared (seconds : Int) (keyStart : Text) (request : Request)
    (serviceUrl : Text) (memory : Memory) :
    ((shared seconds keyStart).consume request serviceUrl memory).2.session = memory.session := by
  simp only [consume]
  split <;> rfl

/-- Consuming takes out what is kept for the id of the session and the digest of the attempt. -/
theorem contains_consume_shared (seconds : Int) (keyStart : Text) (request : Request)
    (serviceUrl : Text) (memory : Memory) (id attempt : Text) :
    ((shared seconds keyStart).consume request serviceUrl memory).2.shared.contains
        (keyStart ++ id ++ ':' :: Sha256.hex attempt) = true ↔
      memory.shared.contains (keyStart ++ id ++ ':' :: Sha256.hex attempt) = true ∧
        ¬(memory.session.bind sessionId? = some id ∧
          Sha256.hex attempt = Sha256.hex (key serviceUrl)) := by
  simp only [consume]
  split
  · rename_i noId
    simp [noId]
  · rename_i sessionId found
    simp only [OrderedMap.contains_eq_true_iff, OrderedMap.mem_keys_erase, sharedKey_eq, found,
      Option.some.injEq]
    rw [and_comm, and_congr_right_iff]
    intro _
    apply not_congr
    constructor
    · intro same
      rcases composed_inj same with ⟨sameId, sameDigest⟩
      exact ⟨sameId.symm, sameDigest⟩
    · rintro ⟨rfl, sameDigest⟩
      rw [sameDigest]

/--
Remembering for a session gives it an id if it had none, and keeps an entry for that id and the
digest of the attempt.
-/
theorem exists_remember_shared (seconds : Int) (keyStart : Text) (request : Request)
    (serviceUrl : Text) (memory : Memory) {session : Session}
    (found : memory.session = some session)
    (minted : memory.session.bind sessionId? = none → fresh.sessionId ≠ []) :
    ∃ left,
      (shared seconds keyStart).remember request serviceUrl fresh memory = (.ok serviceUrl, left) ∧
      left.session ≠ none ∧
      left.session.bind sessionId? =
        some ((memory.session.bind sessionId?).getD fresh.sessionId) ∧
      ∀ id attempt, left.shared.contains (keyStart ++ id ++ ':' :: Sha256.hex attempt) = true ↔
        (id = (memory.session.bind sessionId?).getD fresh.sessionId ∧
          Sha256.hex attempt = Sha256.hex (key serviceUrl)) ∨
        memory.shared.contains (keyStart ++ id ++ ':' :: Sha256.hex attempt) = true := by
  obtain ⟨session?, shared⟩ := memory
  simp only at found
  subst found
  simp only [Option.bind_some] at minted ⊢
  refine ⟨_, rfl, by simp, ?_, ?_⟩
  · cases known : sessionId? session with
    | some sessionId => simp [known]
    | none => simp [sessionId?, Value.isSet, Value.display, minted known]
  · intro id attempt
    simp only [OrderedMap.contains_eq_true_iff, OrderedMap.mem_keys_put, sharedKey_eq]
    apply or_congr_left
    constructor
    · exact composed_inj
    · rintro ⟨rfl, sameDigest⟩
      rw [sameDigest]

end Resolver

end Gateway

end SignOnGate
