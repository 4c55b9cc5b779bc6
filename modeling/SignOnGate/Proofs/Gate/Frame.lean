import SignOnGate.Proofs.Gate.Course
import SignOnGate.Proofs.Gateway.Frame

/-!
# What an evaluation leaves alone

An evaluation writes nothing by itself; only its resolver does, and that one keeps to what is its
own. So the gate can neither make nor drop nor move the assertion of a login, whatever the outcome,
and where no attempt is made silently it writes nothing at all.
-/

namespace SignOnGate

namespace Gate

open Gateway

variable {gate : Gate}

/-- Whatever course an evaluation takes, it keeps to what is its resolver's own. -/
theorem evaluate_confined (builtIn : gate.options.resolver.BuiltIn) (request : Request)
    (fresh : Fresh) (memory : Memory) :
    gate.options.resolver.Confined memory (gate.evaluate request fresh memory).memory := by
  have afterConsume (serviceUrl : Text) {answer : Except Gateway.Fault Bool} {consumed : Memory}
      (consume : gate.options.resolver.consume request serviceUrl memory = (answer, consumed)) :
      gate.options.resolver.Confined memory consumed := by
    have confined := Resolver.confined_consume builtIn request serviceUrl memory
    rwa [consume] at confined
  have afterRemember (serviceUrl : Text) {answer : Except Gateway.Fault Bool} {consumed : Memory}
      (consume : gate.options.resolver.consume request serviceUrl memory = (answer, consumed))
      {settled : Except Gateway.Fault Text} {left : Memory}
      (remember : gate.options.resolver.remember request serviceUrl fresh consumed =
        (settled, left)) : gate.options.resolver.Confined memory left := by
    have confined := Resolver.confined_remember builtIn request serviceUrl fresh memory
    rwa [consume, remember] at confined
  have course := evaluate_course gate request fresh memory
  generalize gate.evaluate request fresh memory = outcome at course ⊢
  cases course with
  | consumeFails _ _ serviceUrl readable fault consumed consume =>
      exact afterConsume serviceUrl consume
  | silentlyTicketed _ _ serviceUrl readable returning consumed consume ticket =>
      exact afterConsume serviceUrl consume
  | gatewayed _ _ serviceUrl readable consumed consume noTicket =>
      exact afterConsume serviceUrl consume
  | silentlyBearing _ _ serviceUrl readable consumed consume noTicket token bearing =>
      exact afterConsume serviceUrl consume
  | rememberFails _ _ serviceUrl readable consumed consume stranger fault left remember =>
      exact afterRemember serviceUrl consume remember
  | silentlySent _ _ serviceUrl readable consumed consume stranger settled left remember =>
      exact afterRemember serviceUrl consume remember
  | _ => exact Resolver.Confined.refl _ memory

/-- A gate that makes no silent attempts writes nothing. -/
theorem memory_evaluate_of_not_silent (notSilent : gate.options.gateway = false)
    (request : Request) (fresh : Fresh) (memory : Memory) :
    (gate.evaluate request fresh memory).memory = memory := by
  have course := evaluate_course gate request fresh memory
  generalize gate.evaluate request fresh memory = outcome at course ⊢
  cases course with
  | consumeFails _ silent => simp [silent] at notSilent
  | silentlyTicketed _ silent => simp [silent] at notSilent
  | gatewayed _ silent => simp [silent] at notSilent
  | silentlyBearing _ silent => simp [silent] at notSilent
  | rememberFails _ silent => simp [silent] at notSilent
  | silentlySent _ silent => simp [silent] at notSilent
  | _ => rfl

/--
An evaluation changes no entry of the session but the one that its resolver has to itself, so the
assertion stays what it was; in the shared store it changes only keys of this session. If no attempt
is made silently, or the URL needs no login, or the session holds an assertion, it changes nothing.
-/
theorem evaluation_spares_foreign_entries (gate : Gate)
    (builtIn : gate.options.resolver.BuiltIn)
    (keysDiffer : gate.options.resolver.ownKey? ≠ some gate.options.assertionKey)
    (request : Request) (fresh : Fresh) (memory : Memory) :
    gate.options.resolver.Confined memory (gate.evaluate request fresh memory).memory ∧
    (gate.evaluate request fresh memory).memory.sessionValue? gate.options.assertionKey =
      memory.sessionValue? gate.options.assertionKey ∧
    (gate.options.gateway = false ∨ (∃ url, gate.excludedUrl? request = .ok (some url)) ∨
        gate.hasAssertion memory = true →
      (gate.evaluate request fresh memory).memory = memory) := by
  have confined := evaluate_confined builtIn request fresh memory
  refine ⟨confined, confined.others _ keysDiffer, ?_⟩
  rintro (notSilent | ⟨url, accepted⟩ | assertion)
  · exact memory_evaluate_of_not_silent notSilent request fresh memory
  · apply memory_evaluate_of_not_consults
    intro consults
    rw [consults.judged] at accepted
    cases accepted
  · apply memory_evaluate_of_not_consults
    intro consults
    rw [consults.noAssertion] at assertion
    cases assertion

/-- A silent gate that keeps its attempts in the shared store. -/
def sharingGate : Gate :=
  .withOptions { gateway := true, resolver := .shared 300 "cas:gateway:".toList }

/-- The memory of a client that has a cart, while the attempt of another client is kept. -/
def cartMemory : Memory where
  session := some ⟨[("cart".toList, .int 3)]⟩
  shared := ⟨[("cas:gateway:other:digest".toList, ⟨['1'], 300⟩)]⟩

/-- The same memory after the visit in which the session gets its id. -/
def visitedCart : Memory :=
  (sharingGate.evaluate homeRequest ⟨['m'], "fresh-id".toList⟩ cartMemory).memory

/--
A visit mints an id for the session, and leaves its cart and the attempt of another client alone.
-/
theorem evaluation_spares_cart_and_other_client :
    visitedCart.sessionValue? Gateway.sessionIdKey = some (.text "fresh-id".toList) ∧
    visitedCart.sessionValue? "cart".toList = some (.int 3) ∧
    visitedCart.shared.get? "cas:gateway:other:digest".toList = some ⟨['1'], 300⟩ := by
  have minted : visitedCart.sessionValue? Gateway.sessionIdKey = some (.text "fresh-id".toList) :=
    rfl
  rcases evaluation_spares_foreign_entries sharingGate trivial (by decide)
    homeRequest ⟨['m'], "fresh-id".toList⟩ cartMemory with ⟨confined, -, -⟩
  refine ⟨minted, confined.others "cart".toList (by decide), ?_⟩
  by_contra changed
  rcases confined.shared "cas:gateway:other:digest".toList changed with
    ⟨seconds, keyStart, sessionId, resolver, known, begins⟩
  have isFresh : Resolver.visitId? cartMemory visitedCart = some "fresh-id".toList := by
    rw [Resolver.visitId?, minted]
    rfl
  cases resolver
  have sameId : some "fresh-id".toList = some sessionId := isFresh.symm.trans known
  cases sameId
  exact absurd begins (by decide)

end Gate

end SignOnGate
