import SignOnGate.Proofs.Gateway.Awaits

/-!
# Damaged attempts

What a resolver that keeps its attempts in the session does with a value that cannot be read as
attempts. Consuming looks for a map and passes over everything else, whereas remembering reads a
list, a text or a number as pairs and fails. So a damaged value is still there when it is met.
-/

namespace SignOnGate

namespace Gateway

namespace Resolver

variable {request : Request} {serviceUrl attemptsKey : Text} {fresh : Fresh} {memory left : Memory}
  {fault : Fault}

/-- Remembering in a session fails for want of a session, or because the attempts are damaged. -/
theorem remember_session_eq_error
    (failed :
      (session attemptsKey).remember request serviceUrl fresh memory = (.error fault, left)) :
    (memory.session = none ∧ fault = withoutSession request) ∨
      ∃ current damage, memory.session = some current ∧
        Attempts.ofSession current attemptsKey = .error damage ∧ fault = .damaged damage := by
  obtain ⟨session?, shared⟩ := memory
  cases session? with
  | none =>
      simp only [remember, Prod.mk.injEq, Except.error.injEq] at failed
      exact Or.inl ⟨rfl, failed.1.symm⟩
  | some current =>
      right
      cases read : Attempts.ofSession current attemptsKey with
      | ok attempts => simp [remember, rememberInSession, read] at failed
      | error damage =>
          simp only [remember, rememberInSession, read, Prod.mk.injEq, Except.error.injEq] at failed
          exact ⟨current, damage, rfl, read, failed.1.symm⟩

/-- Remembering fails for want of a session, or because the attempts in it are damaged. -/
theorem remember_eq_error {resolver : Resolver} (builtIn : resolver.BuiltIn)
    (failed : resolver.remember request serviceUrl fresh memory = (.error fault, left)) :
    fault = withoutSession request ∨ ∃ damage, fault = .damaged damage := by
  cases resolver with
  | session attemptsKey =>
      rcases remember_session_eq_error failed with ⟨-, rfl⟩ | ⟨current, damage, -, -, rfl⟩
      · exact Or.inl rfl
      · exact Or.inr ⟨damage, rfl⟩
  | shared seconds keyStart =>
      rw [remember] at failed
      split at failed
      · cases failed
        exact Or.inl rfl
      · cases failed
  | forgetful => cases failed
  | custom className operations => exact absurd builtIn id

/-- Damaged attempts are passed over by consuming, and met by remembering. -/
theorem of_damaged {current : Session} {damage : DamagedAttempts}
    (present : memory.session = some current)
    (damaged : Attempts.ofSession current attemptsKey = .error damage) (request : Request)
    (serviceUrl : Text) (fresh : Fresh) :
    (session attemptsKey).consume request serviceUrl memory = (.ok false, memory) ∧
      (session attemptsKey).remember request serviceUrl fresh memory =
        (.error (.damaged damage), memory) := by
  obtain ⟨session?, shared⟩ := memory
  cases present
  constructor
  · simp only [consume, consumeInSession]
    split
    · rename_i entries found
      rcases ofSession_map found with ⟨attempts, read⟩
      rw [damaged] at read
      cases read
    · rfl
  · simp only [remember, rememberInSession, damaged]

/-- Damaged attempts that are there after consuming were there before. -/
theorem damaged_of_consume {answer : Except Fault Bool} {consumed : Memory} {current : Session}
    {damage : DamagedAttempts}
    (consume : (session attemptsKey).consume request serviceUrl memory = (answer, consumed))
    (present : consumed.session = some current)
    (damaged : Attempts.ofSession current attemptsKey = .error damage) :
    memory.session = some current := by
  obtain ⟨session?, shared⟩ := memory
  cases session? with
  | none =>
      cases consume
      cases present
  | some before =>
      cases read : Attempts.ofSession before attemptsKey with
      | ok attempts =>
          cases consume
          cases present
          rcases (ofSession_consumeInSession attemptsKey serviceUrl before).mpr
              ⟨attempts, read⟩ with
            ⟨others, readAfter⟩
          rw [damaged] at readAfter
          cases readAfter
      | error other =>
          have held : Memory.session { session := some before, shared } = some before := rfl
          rw [(of_damaged held read request serviceUrl ⟨[], []⟩).1] at consume
          cases consume
          exact present

/-- Damaged attempts are a value that is set and is no map. -/
theorem value_of_damaged {current : Session} {damage : DamagedAttempts}
    (damaged : Attempts.ofSession current attemptsKey = .error damage) :
    ∃ value, current.get? attemptsKey = some value ∧ value.isSet = true ∧
      ∀ entries, value ≠ .map entries := by
  cases found : current.get? attemptsKey with
  | none => simp [Attempts.ofSession, found] at damaged
  | some value =>
      refine ⟨value, rfl, ?_, ?_⟩
      · by_contra notSet
        simp [Attempts.ofSession, found, Attempts.ofValue, notSet] at damaged
      · rintro entries rfl
        rcases ofSession_map found with ⟨attempts, read⟩
        rw [damaged] at read
        cases read

end Resolver

end Gateway

end SignOnGate
