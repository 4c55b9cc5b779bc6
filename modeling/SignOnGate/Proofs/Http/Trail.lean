import SignOnGate.Proofs.Correlation.Nesting
import SignOnGate.Proofs.Http.FrontDoor

/-!
# The trail of a request

All reports about a request carry one id: the last value of the first header that brings one, or
else a minted id. A dispatch comes to this whether the gate passes the request, stops it or fails,
and whatever the application does; afterwards the contexts are as they were. For the variable with
the current id, a dispatch is a context that is opened, logged in and closed again.
-/

namespace SignOnGate

namespace Correlation

/-! ## The id in the headers -/

/-- The headers that may carry an id, as they are usually written. -/
def idHeaders : List Text :=
  ["X-Correlation-ID".toList, "X-Request-ID".toList, "X-Trace-ID".toList]

/-- The last value of a header, whose name may be in any case. -/
def lastValue? (headers : List (Text × Text)) (name : Text) : Option Text :=
  ((headers.filter fun header => Text.sameIgnoringCase header.1 name).map Prod.snd).getLast?

/-- The first of some headers whose last value is not empty gives the id, or else it is minted. -/
inductive Identifies (headers : List (Text × Text)) (minted : Text) : List Text → Text → Prop where
  | minted : Identifies headers minted [] minted
  | header (name : Text) (later : List Text) (id : Text)
      (brought : lastValue? headers name = some id) (id_ne_nil : id ≠ []) :
      Identifies headers minted (name :: later) id
  | passed (name : Text) (later : List Text) (id : Text)
      (notBrought : lastValue? headers name = none ∨ lastValue? headers name = some [])
      (identifies : Identifies headers minted later id) :
      Identifies headers minted (name :: later) id

theorem headerNames_eq : headerNames = idHeaders.map Text.lower := by
  decide +kernel

theorem get?_ofPairs_lower (headers : List (Text × Text)) (name : Text) :
    (OrderedMap.ofPairs (headers.map fun header => (Text.lower header.1, header.2))).get?
      (Text.lower name) = lastValue? headers name := by
  have same (header : Text × Text) :
      decide (Text.lower header.1 = Text.lower name) = Text.sameIgnoringCase header.1 name := by
    rw [Bool.eq_iff_iff, decide_eq_true_eq, Text.sameIgnoringCase, beq_iff_eq]
  rw [OrderedMap.get?_ofPairs, List.filter_map, List.map_map, lastValue?]
  simp only [Function.comp_def, same]

theorem idInHeaders?_eq (headers : List (Text × Text)) :
    idInHeaders? headers = (idHeaders.filterMap (lastValue? headers)).find? (!·.isEmpty) := by
  rw [idInHeaders?, headerNames_eq, List.filterMap_map]
  congr 2
  funext name
  exact get?_ofPairs_lower headers name

/-- The id that is chosen for a request is the one that its headers tell, in their order of rank. -/
theorem identifies_chosen (headers : List (Text × Text)) (minted : Text) :
    Identifies headers minted idHeaders (chosen (idInHeaders? headers) minted) := by
  rw [idInHeaders?_eq]
  induction idHeaders with
  | nil => exact .minted
  | cons name later ih =>
      cases last : lastValue? headers name with
      | none =>
          rw [List.filterMap_cons_none last]
          exact .passed name later _ (Or.inl last) ih
      | some id =>
          rw [List.filterMap_cons_some last]
          cases id with
          | nil => exact .passed name later _ (Or.inr last) ih
          | cons head rest => exact .header name later _ last nofun

example : idInHeaders? [("X-REQUEST-ID".toList, "r".toList),
    ("X-Correlation-Id".toList, "c".toList),
    ("x-correlation-id".toList, [])] = some "r".toList := by
  decide +kernel

end Correlation

namespace Http

namespace FrontDoor

open Correlation

variable {ε : Type} {door : FrontDoor} {application : Application ε} {scope : Scope}
  {contexts : Stack} {minted : Text} {fresh : Fresh} {memory : Memory}

/-- Whatever a dispatch comes to, it has reported inside one context, and has closed it. -/
theorem trail_of_dispatch (door : FrontDoor) (application : Application ε) (scope : Scope)
    (contexts : Stack) (minted : Text) (fresh : Fresh) (memory : Memory) :
    (door.dispatch application scope contexts minted fresh memory).records =
        records (inside scope contexts minted)
          (door.judge scope.request fresh memory).outcome.events ∧
      (∀ visit, (door.dispatch application scope contexts minted fresh memory).visit = some visit →
        visit.contexts = inside scope contexts minted) ∧
      (door.dispatch application scope contexts minted fresh memory).contexts = contexts := by
  cases judged : (door.judge scope.request fresh memory).outcome.result with
  | error fault =>
      rw [dispatch_of_fault judged]
      exact ⟨rfl, nofun, rfl⟩
  | ok decision =>
      cases passes : decision.passesThrough with
      | true =>
          rw [dispatch_of_passing judged passes rfl]
          refine ⟨rfl, ?_, rfl⟩
          rintro visit ⟨⟩
          rfl
      | false =>
          rw [dispatch_of_stopped judged passes]
          exact ⟨rfl, nofun, rfl⟩

/-! ## The dispatch as operations on the variable -/

/-- A record as it is logged: the gate adds no entries of its own. -/
def logged (record : LogRecord) : Answer :=
  .passedOn ⟨[(recordKey, shown record.id)]⟩

/-- The gate logs its reports. -/
def logging (events : List Event) : List Operation :=
  events.map fun _ => .log .empty

theorem answers_logging (ambient : Ambient) (events : List Event) :
    ambient.answers (logging events) = (events.map (⟨·, ambient.current⟩)).map logged := by
  induction events with
  | nil => rfl
  | cons event rest ih => exact congrArg (_ :: ·) ih

theorem balanced_logging (events : List Event) : Balanced (logging events) := by
  induction events with
  | nil => exact .nil
  | cons event rest ih => exact (Balanced.quiet (.log .empty) rfl rfl).append ih

/--
One request, one id. The records of a dispatch are the reports of the gate, and each of them carries
the id that the headers give, or else one that is minted; the application finds the same id, and all
contexts are left as they were. This is what the variable with the current id shows, whatever it
held: opening a context for the headers and logging the reports passes on these records, and once
the context is closed again, and all that the application has opened in it, the variable is as it
was.
-/
theorem one_request_has_one_id (door : FrontDoor) (application : Application ε) (scope : Scope)
    (contexts : Stack) (random : Nat) (fresh : Fresh) (memory : Memory) :
    ∃ id, Identifies scope.headers (mint random) idHeaders id ∧
      (door.dispatch application scope contexts (mint random) fresh memory).records =
        (door.gate.process scope.request fresh memory {}).outcome.events.map (⟨·, some id⟩) ∧
      (∀ visit,
        (door.dispatch application scope contexts (mint random) fresh memory).visit = some visit →
          current? visit.contexts = some id) ∧
      (door.dispatch application scope contexts (mint random) fresh memory).contexts = contexts ∧
      ∀ ambient : Ambient,
        ambient.answers (.enter (idInHeaders? scope.headers) random ::
            logging (door.gate.process scope.request fresh memory {}).outcome.events) =
          .entered id ::
            (door.dispatch application scope contexts (mint random) fresh memory).records.map
              logged ∧
        ∀ within, Balanced within →
          ambient.after (.enter (idInHeaders? scope.headers) random ::
              (logging (door.gate.process scope.request fresh memory {}).outcome.events ++
                within) ++
              [.leave]) =
            ambient := by
  rcases trail_of_dispatch door application scope contexts (mint random) fresh memory with
    ⟨records_eq, visited, contexts_eq⟩
  refine ⟨_, identifies_chosen scope.headers (mint random), records_eq, ?_, contexts_eq, ?_⟩
  · intro visit isVisit
    rw [visited visit isVisit]
    rfl
  · intro ambient
    rw [records_eq]
    refine ⟨congrArg (_ :: ·) (answers_logging _ _), ?_⟩
    intro within balanced
    exact Ambient.after_balanced (.nest _ _ ((balanced_logging _).append balanced)) ambient

/-- Of two headers with an id, in letters of different case, the last one counts in the reports. -/
theorem one_request_has_last_id_of_headers :
    (workerDoor.dispatch frankApplication
      (homeScope [("x-correlation-id".toList, "c-1".toList), ("X-Correlation-ID".toList,
        "c-2".toList)]) ["outer".toList] (mint 7) ⟨['m'], ['s']⟩ {}).records =
      [⟨.loginNeeded, some "c-2".toList⟩,
        ⟨.serviceUrlConstructed "http://app.example.org/home".toList, some "c-2".toList⟩,
        ⟨.redirecting ("https://sso.example.org/cas/login" ++
          "?service=https%3A%2F%2Fapp.example.org%2Fhome").toList, some "c-2".toList⟩] := by
  rcases one_request_has_one_id workerDoor frankApplication
    (homeScope [("x-correlation-id".toList, "c-1".toList), ("X-Correlation-ID".toList,
      "c-2".toList)]) ["outer".toList] 7 ⟨['m'], ['s']⟩ {} with ⟨id, identifies, records_eq, -⟩
  have last : lastValue? (homeScope [("x-correlation-id".toList, "c-1".toList),
      ("X-Correlation-ID".toList, "c-2".toList)]).headers "X-Correlation-ID".toList =
        some "c-2".toList := by
    decide +kernel
  have id_eq : id = "c-2".toList := by
    cases identifies with
    | header name later id brought id_ne_nil =>
        rw [last] at brought
        exact (Option.some.inj brought).symm
    | passed name later id notBrought =>
        rw [last] at notBrought
        rcases notBrought with none_eq | empty_eq
        · cases none_eq
        · cases empty_eq
  rw [records_eq, id_eq]
  decide +kernel

end FrontDoor

end Http

end SignOnGate
