import SignOnGate.Correlation
import SignOnGate.Gate.Process
import SignOnGate.Http.Reply
import SignOnGate.Http.Scope

/-!
# The front door

The gate in front of an application. Every request goes through the gate, inside a correlation
context of its own. The application is called exactly if the decision passes the request through,
and then it finds the decision in the visit. Faults of the gate are passed on.
-/

namespace SignOnGate

namespace Http

/-- A request as the application finds it: the decision about it, and the open contexts. -/
structure Visit where
  decision : Option Decision
  contexts : Correlation.Stack

namespace Visit

/-- What an application says that finds no decision. -/
def undecidedMessage : Text := "CAS authentication middleware not configured".toList

/-- The status that goes with it. -/
def undecidedStatus : Int := 500

/-- The answer of an application that cannot do without a decision. -/
structure Undecided where
  status : Int := undecidedStatus
  message : Text := undecidedMessage
  deriving Repr, DecidableEq

/-- The decision that an application finds. -/
def gateDecision (visit : Visit) : Except Undecided Decision :=
  match visit.decision with
  | none => .error {}
  | some decision => .ok decision

end Visit

/--
An application: it answers a visit, or fails in its own way, and may change what is remembered.
-/
abbrev Application (ε : Type) := Visit → Memory → Except ε Reply × Memory

/-- Why there is no reply. -/
inductive Failure (ε : Type) where
  /-- The gate has no decision. -/
  | gate (fault : Gate.Fault)
  /-- A header of the response has no form on the wire. -/
  | unencodable
  /-- The application failed. -/
  | application (failure : ε)

/-- The gate in front of an application. -/
structure FrontDoor where
  gate : Gate
  /-- Whether the gate runs on a worker, so that a slow store holds up nobody else. -/
  threaded : Bool := false

/-- What a dispatch has come to. -/
structure Dispatched (ε : Type) where
  reply : Except (Failure ε) Reply
  /-- The visit that the application was called with, if it was called. -/
  visit : Option Visit := none
  memory : Memory
  records : List Correlation.LogRecord
  /-- The contexts that are open afterwards. -/
  contexts : Correlation.Stack

namespace FrontDoor

/-- Runs the gate on a request. A worker finds the same contexts open, so it makes no difference. -/
def judge (door : FrontDoor) (request : Request) (fresh : Fresh) (memory : Memory) :
    Gate.Processed :=
  door.gate.process request fresh memory {}

/-- The answer to a request about which the gate has decided. -/
def conclude {ε : Type} (application : Application ε) (contexts : Correlation.Stack)
    (decision : Decision) (response : Response) (memory : Memory) :
    Except (Failure ε) Reply × Option Visit × Memory :=
  if decision.passesThrough then
    let visit : Visit := { decision := some decision, contexts }
    let answer := application visit memory
    (answer.1.mapError .application, some visit, answer.2)
  else
    match Reply.ofResponse? response with
    | some reply => (.ok reply, none, memory)
    | none => (.error .unencodable, none, memory)

/-- Takes a request through the gate, and to the application if it passes. -/
def dispatch {ε : Type} (door : FrontDoor) (application : Application ε) (scope : Scope)
    (contexts : Correlation.Stack) (minted : Text) (fresh : Fresh) (memory : Memory) :
    Dispatched ε :=
  let inner := Correlation.enter contexts (Correlation.idInHeaders? scope.headers) minted
  let processed := door.judge scope.request fresh memory
  let records := Correlation.records inner processed.outcome.events
  let (reply, visit, memory) := match processed.outcome.result with
    | .error fault => (.error (.gate fault), none, processed.outcome.memory)
    | .ok decision =>
      conclude application inner decision processed.response processed.outcome.memory
  { reply, visit, memory, records, contexts := Correlation.leave inner }

/-- Takes a request to the application without any gate. -/
def bypass {ε : Type} (application : Application ε) (contexts : Correlation.Stack)
    (memory : Memory) : Dispatched ε :=
  let visit : Visit := { decision := none, contexts }
  let answer := application visit memory
  { reply := answer.1.mapError .application, visit := some visit, memory := answer.2, records := [],
    contexts }

end FrontDoor

end Http

end SignOnGate
