import Mathlib.Tactic.Common
import SignOnGate.Proofs.Gate.Course
import SignOnGate.Proofs.Gateway.Awaits

/-!
# What a failed evaluation leaves behind

A failed evaluation leaves the memory as it was, with one exception: the attempt is kept before the
redirect is built, so that a service URL for which no redirect can be built fails with its attempt
already kept. The next evaluation of the same request finds that attempt and lets the client pass.
`KeepsInVain` is the exact condition for this.
-/

namespace SignOnGate

namespace Gate

open Gateway

/--
A request comes as far as keeping an attempt, although no redirect can be built for its service URL.
-/
structure KeepsInVain (gate : Gate) (request : Request) (memory : Memory) : Prop where
  consults : gate.Consults request memory
  silent : gate.options.gateway = true
  stranger : gate.Stranger request
  canKeep : gate.options.resolver.CanKeep memory
  rejected : ∃ serviceUrl fault, gate.serviceUrl request = .ok serviceUrl ∧
    ¬gate.options.resolver.Awaits memory (key serviceUrl) ∧
    gate.redirectWith serviceUrl = .error fault

variable {gate : Gate} {request : Request} {fresh other : Fresh} {memory : Memory} {fault : Fault}

/-! ## The result does not depend on what is minted -/

/-- What is minted does not decide the result of sending a client away. -/
theorem send_result_eq (builtIn : gate.options.resolver.BuiltIn) (request : Request)
    (serviceUrl : Text) (fresh other : Fresh) (memory : Memory) :
    (gate.send request serviceUrl fresh memory).result =
      (gate.send request serviceUrl other memory).result := by
  have same := Resolver.remember_result_eq builtIn request serviceUrl fresh other memory
  simp only [send]
  split
  · generalize gate.options.resolver.remember request serviceUrl fresh memory = first at same ⊢
    generalize gate.options.resolver.remember request serviceUrl other memory = second at same ⊢
    obtain ⟨answer, left⟩ := first
    obtain ⟨otherAnswer, otherLeft⟩ := second
    simp only at same
    subst same
    cases answer <;> rfl
  · rfl

theorem judgeStranger_result_eq (builtIn : gate.options.resolver.BuiltIn) (request : Request)
    (serviceUrl : Except Fault Text) (fresh other : Fresh) (memory : Memory) :
    (gate.judgeStranger request serviceUrl fresh memory).result =
      (gate.judgeStranger request serviceUrl other memory).result := by
  simp only [judgeStranger]
  split
  · rfl
  · split
    · rfl
    · exact send_result_eq builtIn request _ fresh other memory

theorem judgeSilently_result_eq (builtIn : gate.options.resolver.BuiltIn) (request : Request)
    (fresh other : Fresh) (memory : Memory) :
    (gate.judgeSilently request fresh memory).result =
      (gate.judgeSilently request other memory).result := by
  simp only [judgeSilently]
  split
  · rfl
  · split
    · rfl
    · split
      · rfl
      · split
        · rfl
        · exact judgeStranger_result_eq builtIn request _ fresh other _

theorem judgeOpenly_result_eq (builtIn : gate.options.resolver.BuiltIn) (request : Request)
    (fresh other : Fresh) (memory : Memory) :
    (gate.judgeOpenly request fresh memory).result =
      (gate.judgeOpenly request other memory).result := by
  simp only [judgeOpenly]
  split
  · rfl
  · exact judgeStranger_result_eq builtIn request _ fresh other memory

/-- What is minted does not decide the result of an evaluation. -/
theorem evaluate_result_eq (builtIn : gate.options.resolver.BuiltIn) (request : Request)
    (fresh other : Fresh) (memory : Memory) :
    (gate.evaluate request fresh memory).result = (gate.evaluate request other memory).result := by
  simp only [evaluate]
  split
  · rfl
  · rfl
  · split
    · rfl
    · split
      · exact judgeSilently_result_eq builtIn request fresh other memory
      · exact judgeOpenly_result_eq builtIn request fresh other memory

/-! ## Failures with and without a trace -/

/-- A failed evaluation that does not keep an attempt in vain changes nothing. -/
theorem memory_eq_of_failed (builtIn : gate.options.resolver.BuiltIn)
    (failed : (gate.evaluate request fresh memory).result = .error fault)
    (notInVain : ¬gate.KeepsInVain request memory) :
    (gate.evaluate request fresh memory).memory = memory := by
  have course := evaluate_course gate request fresh memory
  generalize gate.evaluate request fresh memory = outcome at course failed ⊢
  cases course with
  | exclusionFails fault fails => rfl
  | excluded url accepted => rfl
  | authenticated judged assertion => rfl
  | silentlyUnreadable consults silent fault unreadable => rfl
  | consumeFails consults silent serviceUrl readable fault consumed consume =>
      exact absurd consume (Resolver.not_consume_error builtIn)
  | silentlyTicketed consults silent serviceUrl readable returning consumed consume ticket =>
      cases failed
  | gatewayed consults silent serviceUrl readable consumed consume noTicket => cases failed
  | silentlyBearing consults silent serviceUrl readable consumed consume noTicket token bearing =>
      cases failed
  | rememberFails consults silent serviceUrl readable consumed consume stranger fault left
      remember =>
      by_cases canKeep : gate.options.resolver.CanKeep consumed
      · rcases Resolver.remember_of_canKeep canKeep request serviceUrl fresh with ⟨kept, run, -⟩
        rw [remember] at run
        cases run
      · exact Resolver.left_eq_of_not_canKeep builtIn consume remember canKeep
  | silentlySent consults silent serviceUrl readable consumed consume stranger settled left
      remember =>
      by_cases canKeep : gate.options.resolver.CanKeep consumed
      · rcases Resolver.remember_of_canKeep canKeep request serviceUrl fresh with ⟨kept, run, -⟩
        rw [remember] at run
        cases run
        have canKeepBefore : gate.options.resolver.CanKeep memory := by
          rwa [← Resolver.canKeep_consume request serviceUrl memory builtIn, consume]
        have notAwaited : ¬gate.options.resolver.Awaits memory (key serviceUrl) := by
          rw [← Resolver.awaits_iff_of_consume builtIn consume]
          simp
        exact absurd ⟨consults, silent, stranger, canKeepBefore, serviceUrl, fault, readable,
          notAwaited, failed⟩ notInVain
      · exact Resolver.left_eq_of_not_canKeep builtIn consume remember canKeep
  | openlyTicketed consults notSilent ticket => rfl
  | openlyBearing consults notSilent noTicket token bearing => rfl
  | openlyUnreadable consults notSilent stranger fault unreadable => rfl
  | openlySent consults notSilent stranger serviceUrl readable => rfl

/-- An attempt that is kept in vain is awaited although the evaluation fails. -/
theorem KeepsInVain.evaluate (inVain : gate.KeepsInVain request memory)
    (builtIn : gate.options.resolver.BuiltIn) (minted : fresh.sessionId ≠ []) :
    ∃ serviceUrl fault, gate.serviceUrl request = .ok serviceUrl ∧
      ¬gate.options.resolver.Awaits memory (key serviceUrl) ∧
      (gate.evaluate request fresh memory).result = .error fault ∧
      gate.options.resolver.Awaits (gate.evaluate request fresh memory).memory
        (key serviceUrl) := by
  rcases inVain.rejected with ⟨serviceUrl, fault, readable, notAwaited, noRedirect⟩
  refine ⟨serviceUrl, fault, readable, notAwaited, ?_⟩
  rcases Resolver.exists_consume builtIn request serviceUrl memory with
    ⟨returning, consumed, consume, awaits⟩
  have notReturning : returning = false := by
    cases returning with
    | true => exact absurd (awaits.mp rfl) notAwaited
    | false => rfl
  subst notReturning
  have canKeep : gate.options.resolver.CanKeep consumed := by
    have kept := (Resolver.canKeep_consume request serviceUrl memory builtIn).mpr inVain.canKeep
    rwa [consume] at kept
  rcases Resolver.remember_of_canKeep canKeep request serviceUrl fresh with ⟨left, remember, -⟩
  have course := Course.silentlySent inVain.consults inVain.silent serviceUrl readable consumed
    consume inVain.stranger serviceUrl left remember
  rw [course.evaluate_eq]
  exact ⟨noRedirect, Resolver.awaits_of_remember canKeep minted remember⟩

/-- A request whose attempt is awaited passes, be it by the attempt or by an assertion. -/
theorem passesThrough_of_awaits (builtIn : gate.options.resolver.BuiltIn)
    (judged : gate.excludedUrl? request = .ok none) (silent : gate.options.gateway = true)
    (noTicket : gate.hasTicket request = false) {serviceUrl : Text}
    (readable : gate.serviceUrl request = .ok serviceUrl)
    (awaits : gate.options.resolver.Awaits memory (key serviceUrl)) :
    ∃ decision, (gate.evaluate request fresh memory).result = .ok decision ∧
      decision.passesThrough = true := by
  cases assertion : gate.hasAssertion memory with
  | true =>
      rw [(Course.authenticated judged assertion).evaluate_eq]
      exact ⟨.authenticated, rfl, rfl⟩
  | false =>
      rcases Resolver.exists_consume builtIn request serviceUrl memory with
        ⟨returning, consumed, consume, awaits_iff⟩
      have returns : returning = true := awaits_iff.mpr awaits
      subst returns
      rw [(Course.gatewayed ⟨judged, assertion⟩ silent serviceUrl readable consumed consume
        noTicket).evaluate_eq]
      exact ⟨.gatewayed serviceUrl, rfl, rfl⟩

/--
A failed evaluation changes the memory exactly when it keeps an attempt in vain. The next evaluation
of the request then lets the client pass; after any other failure it fails again, and again without
a change.
-/
theorem failed_evaluation_leaves_trace_iff (gate : Gate) (builtIn : gate.options.resolver.BuiltIn)
    (request : Request) (fresh retry : Fresh) (minted : fresh.sessionId ≠ []) (memory : Memory) :
    ((∃ fault, (gate.evaluate request fresh memory).result = .error fault ∧
        (gate.evaluate request fresh memory).memory ≠ memory) ↔
      gate.KeepsInVain request memory) ∧
    (gate.KeepsInVain request memory → ∃ decision,
      (gate.evaluate request retry (gate.evaluate request fresh memory).memory).result =
        .ok decision ∧ decision.passesThrough = true) ∧
    ∀ fault, (gate.evaluate request fresh memory).result = .error fault →
      ¬gate.KeepsInVain request memory →
      (gate.evaluate request fresh memory).memory = memory ∧
      (gate.evaluate request retry (gate.evaluate request fresh memory).memory).result =
        .error fault ∧
      (gate.evaluate request retry (gate.evaluate request fresh memory).memory).memory =
        memory := by
  refine ⟨⟨?_, ?_⟩, ?_, ?_⟩
  · rintro ⟨fault, failed, changed⟩
    by_contra notInVain
    exact changed (memory_eq_of_failed builtIn failed notInVain)
  · intro inVain
    rcases inVain.evaluate builtIn minted with
      ⟨serviceUrl, fault, readable, notAwaited, failed, awaits⟩
    refine ⟨fault, failed, ?_⟩
    intro unchanged
    rw [unchanged] at awaits
    exact notAwaited awaits
  · intro inVain
    rcases inVain.evaluate builtIn minted with
      ⟨serviceUrl, fault, readable, notAwaited, failed, awaits⟩
    exact passesThrough_of_awaits builtIn inVain.consults.judged inVain.silent
      inVain.stranger.noTicket readable awaits
  · intro fault failed notInVain
    have unchanged := memory_eq_of_failed builtIn failed notInVain
    have failsAgain : (gate.evaluate request retry memory).result = .error fault := by
      rw [evaluate_result_eq builtIn request retry fresh memory, failed]
    rw [unchanged]
    exact ⟨rfl, failsAgain, memory_eq_of_failed builtIn failsAgain notInVain⟩

/-- A gate whose configured service URL is no absolute URL. -/
def withUnusableService : Gate :=
  .withOptions { gateway := true, service := some "not a url".toList }

theorem keepsInVain_withUnusableService :
    withUnusableService.KeepsInVain homeRequest { session := some .empty } := by
  refine ⟨⟨rfl, rfl⟩, rfl, stranger_homeRequest _ rfl, ⟨.empty, rfl, .empty, rfl⟩, ?_⟩
  refine ⟨"not a url".toList, _, rfl, ?_, rfl⟩
  rintro ⟨attempts, found, -⟩
  cases found

/-- The first visit fails and leaves its attempt behind, the second one passes. -/
theorem failed_evaluation_leaves_trace_at_unusable_service :
    (∃ fault,
      (withUnusableService.evaluate homeRequest ⟨['m'], ['s']⟩
        { session := some .empty }).result = .error fault ∧
      (withUnusableService.evaluate homeRequest ⟨['m'], ['s']⟩
        { session := some .empty }).memory ≠ { session := some .empty }) ∧
    ∃ decision,
      (withUnusableService.evaluate homeRequest ⟨['n'], ['t']⟩
        (withUnusableService.evaluate homeRequest ⟨['m'], ['s']⟩
          { session := some .empty }).memory).result = .ok decision ∧
      decision.passesThrough = true := by
  have trace := failed_evaluation_leaves_trace_iff withUnusableService trivial homeRequest
    ⟨['m'], ['s']⟩ ⟨['n'], ['t']⟩ (by decide) { session := some .empty }
  exact ⟨trace.1.mpr keepsInVain_withUnusableService, trace.2.1 keepsInVain_withUnusableService⟩

end Gate

end SignOnGate
