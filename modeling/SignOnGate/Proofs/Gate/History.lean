import Mathlib.Data.Set.Insert
import SignOnGate.Proofs.Gate.Course
import SignOnGate.Proofs.Gate.Service
import SignOnGate.Proofs.Gateway.Stored

/-!
# Silent attempts over a run of visits

A run is any row of evaluations on one session, between which everything in the session may change
but the entry of the attempts. What the entry says after a run is told by the visits alone: an
attempt is pending when the latest consulting visit for it was sent away. Hence a visit without a
ticket is recognised as a return exactly when its attempt is pending, and each attempt is recognised
once. The induction is on the run; `stored_evaluate` is its step.
-/

namespace SignOnGate

/-- An evaluation that came to a decision. -/
structure DecidedVisit where
  request : Request
  before : Memory
  decision : Decision

namespace Gate

open Gateway

/-- A consulting visit whose service URL has the given key. -/
def ConsultsFor (gate : Gate) (visit : DecidedVisit) (attempt : Text) : Prop :=
  gate.Consults visit.request visit.before ∧
    ∃ serviceUrl, gate.serviceUrl visit.request = .ok serviceUrl ∧ key serviceUrl = attempt

/-- The latest consulting visit for an attempt was sent away. The latest visit stands first. -/
def SentLast (gate : Gate) (history : List DecidedVisit) (attempt : Text) : Prop :=
  ∃ later visit earlier, history = later ++ visit :: earlier ∧
    (∀ other ∈ later, ¬gate.ConsultsFor other attempt) ∧
    gate.ConsultsFor visit attempt ∧ ∃ redirect, visit.decision = .needsRedirect redirect

/--
The runs of a gate on a session that has no attempts at first, with the latest visit first. Every
evaluation of a run comes to a decision. Between two of them the session may change in any way that
leaves the entry of the attempts alone.
-/
inductive Run (gate : Gate) (attemptsKey : Text) : List DecidedVisit → Memory → Prop where
  | start (session : Session) (shared : SharedStore)
      (noEntry : session.get? attemptsKey = none) :
      Run gate attemptsKey [] { session := some session, shared }
  | visit {history : List DecidedVisit} {memory : Memory}
      (run : Run gate attemptsKey history memory)
      (request : Request) (fresh : Fresh) (decision : Decision)
      (returned : (gate.evaluate request fresh memory).result = .ok decision) :
      Run gate attemptsKey ({ request, before := memory, decision } :: history)
        (gate.evaluate request fresh memory).memory
  | between {history : List DecidedVisit} {memory : Memory}
      (run : Run gate attemptsKey history memory)
      (session : Session) (shared : SharedStore)
      (kept : session.get? attemptsKey = memory.sessionValue? attemptsKey) :
      Run gate attemptsKey history { session := some session, shared }

variable {gate : Gate} {attemptsKey : Text}

/-- Before the first visit, no attempt is pending. -/
@[simp]
theorem not_sentLast_nil (gate : Gate) (attempt : Text) : ¬gate.SentLast [] attempt := by
  rintro ⟨later, visit, earlier, split, -⟩
  simp at split

/--
A new visit settles the question if it consults for the attempt, and else leaves it as it was.
-/
theorem sentLast_cons_iff (gate : Gate) (visit : DecidedVisit) (earlier : List DecidedVisit)
    (attempt : Text) :
    gate.SentLast (visit :: earlier) attempt ↔
      (gate.ConsultsFor visit attempt ∧ ∃ redirect, visit.decision = .needsRedirect redirect) ∨
      (¬gate.ConsultsFor visit attempt ∧ gate.SentLast earlier attempt) := by
  constructor
  · rintro ⟨later, sent, rest, split, notLater, consults, redirected⟩
    cases later with
    | nil =>
        cases split
        exact Or.inl ⟨consults, redirected⟩
    | cons first others =>
        cases split
        refine Or.inr ⟨notLater visit (by simp), others, sent, rest, rfl, ?_, consults, redirected⟩
        intro other member
        exact notLater other (by simp [member])
  · rintro (⟨consults, redirected⟩ | ⟨notConsults, later, sent, rest, rfl, notLater, consults,
      redirected⟩)
    · exact ⟨[], visit, earlier, rfl, by simp, consults, redirected⟩
    · refine ⟨visit :: later, sent, rest, rfl, ?_, consults, redirected⟩
      intro other member
      rcases List.mem_cons.mp member with rfl | member
      · exact notConsults
      · exact notLater other member

theorem settled_of_not_sent (pending : Set Text) (attempt : Text) {sent : Prop} (notSent : ¬sent) :
    {other | (other = attempt ∧ sent) ∨ (other ≠ attempt ∧ other ∈ pending)} =
      pending \ {attempt} := by
  ext other
  simp [notSent, and_comm]

theorem settled_of_sent (pending : Set Text) (attempt : Text) {sent : Prop} (isSent : sent) :
    {other | (other = attempt ∧ sent) ∨ (other ≠ attempt ∧ other ∈ pending)} =
      insert attempt (pending \ {attempt}) := by
  ext other
  by_cases same : other = attempt <;> simp [isSent, same]

/--
What a consulting evaluation does to a set of pending attempts: its own attempt is pending
afterwards exactly when the client was sent away, and all others stay as they were.
-/
theorem stored_evaluate (resolver : gate.options.resolver = .session attemptsKey)
    (silent : gate.options.gateway = true) {request : Request} {fresh : Fresh} {memory : Memory}
    {pending : Set Text} (consults : gate.Consults request memory)
    (stored : Attempts.Stored (memory.sessionValue? attemptsKey) pending) {decision : Decision}
    (returned : (gate.evaluate request fresh memory).result = .ok decision) :
    ∃ serviceUrl, gate.serviceUrl request = .ok serviceUrl ∧
      (gate.hasTicket request = true → decision = .ticketed (some serviceUrl)) ∧
      (gate.hasTicket request = false →
        ((∃ returnUrl, decision = .gatewayed returnUrl) ↔ key serviceUrl ∈ pending)) ∧
      Attempts.Stored ((gate.evaluate request fresh memory).memory.sessionValue? attemptsKey)
        {attempt | (attempt = key serviceUrl ∧ ∃ redirect, decision = .needsRedirect redirect) ∨
          (attempt ≠ key serviceUrl ∧ attempt ∈ pending)} := by
  have course := evaluate_course gate request fresh memory
  generalize gate.evaluate request fresh memory = outcome at course returned ⊢
  cases course with
  | exclusionFails fault fails => cases returned
  | excluded url accepted =>
      rw [consults.judged] at accepted
      cases accepted
  | authenticated judged assertion =>
      rw [consults.noAssertion] at assertion
      cases assertion
  | silentlyUnreadable _ _ fault unreadable => cases returned
  | consumeFails _ _ serviceUrl readable fault consumed consume => cases returned
  | silentlyTicketed _ _ serviceUrl readable returning consumed consume ticket =>
      cases returned
      rw [resolver] at consume
      refine ⟨serviceUrl, readable, fun _ => rfl, by simp [ticket], ?_⟩
      rw [settled_of_not_sent pending (key serviceUrl) (by simp)]
      exact (Resolver.stored_of_consume stored consume).2
  | gatewayed _ _ serviceUrl readable consumed consume noTicket =>
      cases returned
      rw [resolver] at consume
      rcases Resolver.stored_of_consume stored consume with ⟨returning_iff, storedAfter⟩
      refine ⟨serviceUrl, readable, by simp [noTicket], fun _ => ?_, ?_⟩
      · simpa using returning_iff
      · rw [settled_of_not_sent pending (key serviceUrl) (by simp)]
        exact storedAfter
  | silentlyBearing _ _ serviceUrl readable consumed consume noTicket token bearing =>
      cases returned
      rw [resolver] at consume
      rcases Resolver.stored_of_consume stored consume with ⟨returning_iff, storedAfter⟩
      refine ⟨serviceUrl, readable, by simp [noTicket], fun _ => ?_, ?_⟩
      · simpa using returning_iff
      · rw [settled_of_not_sent pending (key serviceUrl) (by simp)]
        exact storedAfter
  | rememberFails _ _ serviceUrl readable consumed consume stranger fault left remember =>
      cases returned
  | silentlySent _ _ serviceUrl readable consumed consume stranger settled left remember =>
      rw [resolver] at consume remember
      rcases Resolver.stored_of_consume stored consume with ⟨returning_iff, storedAfter⟩
      rcases redirectWith_eq_ok returned with ⟨redirect, rfl⟩
      refine ⟨serviceUrl, readable, by simp [stranger.noTicket], fun _ => ?_, ?_⟩
      · simpa using returning_iff
      · rw [settled_of_sent pending (key serviceUrl) ⟨redirect, rfl⟩]
        exact (Resolver.stored_of_remember storedAfter remember).2
  | openlyTicketed _ notSilent ticket => simp [silent] at notSilent
  | openlyBearing _ notSilent noTicket token bearing => simp [silent] at notSilent
  | openlyUnreadable _ notSilent stranger fault unreadable => simp [silent] at notSilent
  | openlySent _ notSilent stranger serviceUrl readable => simp [silent] at notSilent

/-- After a run the session holds exactly the attempts whose latest visit was sent away. -/
theorem Run.stored (resolver : gate.options.resolver = .session attemptsKey)
    (silent : gate.options.gateway = true) {history : List DecidedVisit} {memory : Memory}
    (run : Run gate attemptsKey history memory) :
    Attempts.Stored (memory.sessionValue? attemptsKey)
      {attempt | gate.SentLast history attempt} := by
  induction run with
  | start session shared noEntry =>
      simp only [not_sentLast_nil, Set.ofPred_false, Memory.sessionValue?, Option.bind_some,
        noEntry]
      exact .absent
  | @visit history memory run request fresh decision returned ih =>
      by_cases consults : gate.Consults request memory
      · rcases stored_evaluate resolver silent consults ih returned with
          ⟨serviceUrl, readable, -, -, storedAfter⟩
        have same : {attempt | gate.SentLast ({ request, before := memory, decision } :: history)
            attempt} =
            {attempt | (attempt = key serviceUrl ∧
                ∃ redirect, decision = .needsRedirect redirect) ∨
              (attempt ≠ key serviceUrl ∧
               attempt ∈ {attempt | gate.SentLast history attempt})} := by
          ext attempt
          have consultsFor : gate.ConsultsFor { request, before := memory, decision } attempt ↔
              attempt = key serviceUrl := by
            simp [ConsultsFor, consults, readable, eq_comm]
          simp only [Set.mem_ofPred_eq, sentLast_cons_iff, consultsFor, ne_eq]
        rw [same]
        exact storedAfter
      · rw [memory_evaluate_of_not_consults consults]
        have same : {attempt | gate.SentLast ({ request, before := memory, decision } :: history)
            attempt} = {attempt | gate.SentLast history attempt} := by
          ext attempt
          simp [sentLast_cons_iff, ConsultsFor, consults]
        rw [same]
        exact ih
  | between run session shared kept ih =>
      rw [← kept] at ih
      exact ih

/-- The visits in front of a visit of a run are a run themselves. -/
theorem Run.before {history : List DecidedVisit} {memory : Memory}
    (run : Run gate attemptsKey history memory) {later : List DecidedVisit} {visit : DecidedVisit}
    {earlier : List DecidedVisit} (split : history = later ++ visit :: earlier) :
    Run gate attemptsKey earlier visit.before ∧
      ∃ fresh, (gate.evaluate visit.request fresh visit.before).result = .ok visit.decision := by
  induction run generalizing later with
  | start session shared noEntry => simp at split
  | visit run request fresh decision returned ih =>
      cases later with
      | nil =>
          cases split
          exact ⟨run, fresh, returned⟩
      | cons first others =>
          cases split
          exact ih rfl
  | between run session shared kept ih => exact ih split

/--
In a run, a consulting visit with a ticket is let through with it, and one without a ticket is
recognised as a return exactly when the latest earlier consulting visit for its attempt was sent
away. In front of every visit, and after the run, the session holds exactly the attempts whose
latest consulting visit was sent away.
-/
theorem silent_run_recognises_exactly_once (gate : Gate) (attemptsKey : Text)
    (resolver : gate.options.resolver = .session attemptsKey)
    (silent : gate.options.gateway = true) (history : List DecidedVisit) (memory : Memory)
    (run : Run gate attemptsKey history memory) :
    (∀ later visit earlier, history = later ++ visit :: earlier →
      Attempts.Stored (visit.before.sessionValue? attemptsKey)
        {attempt | gate.SentLast earlier attempt} ∧
      (gate.Consults visit.request visit.before →
        ∃ serviceUrl, gate.serviceUrl visit.request = .ok serviceUrl ∧
          (gate.hasTicket visit.request = true → visit.decision = .ticketed (some serviceUrl)) ∧
          (gate.hasTicket visit.request = false →
            ((∃ returnUrl, visit.decision = .gatewayed returnUrl) ↔
              gate.SentLast earlier (key serviceUrl))))) ∧
    Attempts.Stored (memory.sessionValue? attemptsKey)
      {attempt | gate.SentLast history attempt} := by
  refine ⟨?_, run.stored resolver silent⟩
  intro later visit earlier split
  rcases run.before split with ⟨runBefore, fresh, returned⟩
  have storedBefore := runBefore.stored resolver silent
  refine ⟨storedBefore, ?_⟩
  intro consults
  rcases stored_evaluate resolver silent consults storedBefore returned with
    ⟨serviceUrl, readable, ticketed, gatewayed_iff, -⟩
  exact ⟨serviceUrl, readable, ticketed, gatewayed_iff⟩

/-- The client comes back over `https` and is recognised, although the session has changed. -/
theorem silent_run_recognises_return_over_https :
    ∃ sent returned memory,
      Run silentGate Gateway.attemptsKey [returned, sent] memory ∧
      sent.request.url = .ok "http://app.example.org/home".toList ∧
      returned.request.url = .ok "https://app.example.org/home".toList ∧
      ∃ returnUrl, returned.decision = .gatewayed returnUrl := by
  have sent : ∃ redirect,
      (silentGate.evaluate (.ofFields "http://app.example.org/home".toList [] none)
        ⟨['m'], ['s']⟩ { session := some .empty }).result = .ok (.needsRedirect redirect) :=
    ⟨_, rfl⟩
  rcases sent with ⟨redirect, sent⟩
  have first :=
    (@Run.start silentGate Gateway.attemptsKey .empty .empty rfl).visit _ _ _ sent
  have changed := first.between
    (((silentGate.evaluate (.ofFields "http://app.example.org/home".toList [] none)
      ⟨['m'], ['s']⟩ { session := some .empty }).memory.session.getD .empty).put "page".toList
        (.int 2)) .empty (by rw [OrderedMap.get?_put_of_ne _ _ (by decide)]; rfl)
  have run := changed.visit (.ofFields "https://app.example.org/home".toList [] none)
    ⟨['n'], ['t']⟩ (.gatewayed "https://app.example.org/home".toList) (by decide +kernel)
  refine ⟨_, _, _, run, rfl, rfl, ?_⟩
  rcases (silent_run_recognises_exactly_once silentGate Gateway.attemptsKey rfl rfl _ _ run).1
      [] _ _
    rfl with ⟨-, visits⟩
  rcases visits ⟨rfl, by decide +kernel⟩ with ⟨serviceUrl, readable, -, gatewayed_iff⟩
  apply (gatewayed_iff (by decide +kernel)).mpr
  refine ⟨[], _, [], rfl, by simp, ⟨⟨rfl, rfl⟩, _, rfl, ?_⟩, _, rfl⟩
  have known : silentGate.serviceUrl (.ofFields "https://app.example.org/home".toList [] none) =
      .ok "https://app.example.org/home".toList := by decide +kernel
  rw [known, Except.ok.injEq] at readable
  rw [← readable]
  decide +kernel

end Gate

end SignOnGate
