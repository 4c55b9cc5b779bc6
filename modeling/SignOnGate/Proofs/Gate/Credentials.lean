import Mathlib.Data.List.Forall2
import SignOnGate.Proofs.Gate.Course
import SignOnGate.Proofs.Gate.Reports
import SignOnGate.Proofs.Gate.Service
import SignOnGate.Proofs.Gateway.SharedStore
import SignOnGate.Proofs.ServiceUrl.FieldValue
import SignOnGate.Proofs.Text.Lower

/-!
# Credentials and the log

Two runs that differ in a credential only write the same log. An access token shows by its
fingerprint and in no other way. A ticket does not show at all: what is written of the URL is the
service URL, where the ticket is left out, and the value of a ticket does not decide anything as
long as it is not blank.
-/

namespace SignOnGate

open Text Url

/-- The request with an access token in its header. -/
def Request.bearing (request : Request) (token : Text) : Request :=
  { request with headers := request.headers.put "authorization".toList ("Bearer ".toList ++ token) }

/-- A value that a ticket can have: it stays inside its field, and stands for more than blanks. -/
structure IsTicketValue (value : Text) : Prop where
  noField : '&' ∉ value
  noFragment : '#' ∉ value
  notBlank : isBlankText (Query.decodePart (quieted value)) = false

/-- Two rows of a log that are the same but for the fingerprints of two access tokens. -/
inductive SameButFingerprint (first second : Text) : Text × Option Text → Text × Option Text → Prop
  | same (row : Text × Option Text) : SameButFingerprint first second row row
  | fingerprint (front behind : Text) (id : Option Text) :
      SameButFingerprint first second
        (front ++ Event.fingerprint first ++ behind, id)
        (front ++ Event.fingerprint second ++ behind, id)

namespace Event

theorem length_fingerprint (token : Text) : (fingerprint token).length = 12 := by
  rw [fingerprint, List.length_take, Sha256.length_hex]
  rfl

theorem map_renamed_id (events : List Event) : events.map (renamed id) = events := by
  have kept : renamed id = id := by
    funext event
    cases event <;> rfl
  rw [kept, List.map_id]

/-- Only the report of an access token tells one token from another, by the fingerprint. -/
theorem sameButFingerprint_renamed (event : Event) (id : Option Text) (first second : Text) :
    SameButFingerprint first second ((event.renamed fun _ => first).message, id)
      ((event.renamed fun _ => second).message, id) := by
  cases event with
  | tokenPresent token =>
      exact .fingerprint "Access token present (sha256:".toList [')'] id
  | _ => exact .same _

end Event

namespace Gate

variable {gate : Gate}

/-! ## Access tokens -/

/-- A request that was given a token brings that token. -/
theorem bearerToken?_bearing (request : Request) (token : Text) :
    bearerToken? (request.bearing token) = some token := by
  have name : Text.lower "Authorization".toList = "authorization".toList := by decide +kernel
  have header : (request.bearing token).header? "Authorization".toList =
      some ("Bearer ".toList ++ token) := by
    rw [Request.header?, name]
    exact OrderedMap.get?_put_self _ _ _
  have notBlank : isBlankText ("Bearer ".toList ++ token) = false := by
    rw [isBlankText, List.all_eq_false]
    exact ⟨'B', by simp, by decide⟩
  have small : "Bearer ".toList.flatMap lowerChar = bearerStart := by decide +kernel
  have starts : bearerStart.isPrefixOf (lower ("Bearer ".toList ++ token)) = true := by
    rw [lower, lowerFrom_append false (by decide), small, List.isPrefixOf_iff_prefix]
    exact List.prefix_append _ _
  rw [bearerToken?, header]
  simp only [notBlank, starts]
  rfl

theorem alike_bearing (gate : Gate) (request : Request) (first second : Text) :
    gate.Alike (fun _ => second) (request.bearing first) (request.bearing second) := by
  refine ⟨rfl, rfl, ?_⟩
  rw [bearerToken?_bearing, bearerToken?_bearing]
  rfl

/-! ## Tickets -/

/-- Requests that differ in the value of the ticket only look alike to a gate. -/
theorem alike_url (gate : Gate) (frame : FieldFrame) (headers : List (Text × Text))
    {first second : Text} (isFirst : IsTicketValue first) (isSecond : IsTicketValue second) :
    gate.Alike id
      (.ofFields (frame.url gate.options.protocol.artifactParameter first) headers none)
      (.ofFields (frame.url gate.options.protocol.artifactParameter second) headers none) := by
  have plain := gate.options.protocol.isUnreserved_of_mem_artifactParameter
  have firstField : FieldFrame.IsField gate.options.protocol.artifactParameter first :=
    ⟨plain, isFirst.noField, isFirst.noFragment⟩
  have secondField : FieldFrame.IsField gate.options.protocol.artifactParameter second :=
    ⟨plain, isSecond.noField, isSecond.noFragment⟩
  refine ⟨?_, ?_, ?_⟩
  · cases counted : ServiceUrl.counted? gate.options.service with
    | some service => rw [serviceUrl_of_counted counted, serviceUrl_of_counted counted]
    | none =>
        have same := frame.toOption_ofText_url firstField secondField gate.options.serverName
        rw [serviceUrl_of_not_counted counted rfl, serviceUrl_of_not_counted counted rfl]
        rcases Except.ok_or_error_of_toOption_eq same with
          ⟨serviceUrl, built, builtToo⟩ | ⟨rejection, rejectionToo, rejected, rejectedToo⟩
        · rw [built, builtToo]
        · rw [rejected, rejectedToo]
          rfl
  · rw [hasTicket, hasTicket, frame.parameter?_url firstField, frame.parameter?_url secondField]
    cases (split frame.front).toOption with
    | none => rfl
    | some parts =>
        -- An earlier field of the name is the ticket of both, or each has its own.
        generalize ((Query.parse (quieted frame.earlier)).find? _).map Prod.snd = earlier
        cases earlier with
        | some ticket => rfl
        | none => simp [isFirst.notBlank, isSecond.notBlank]
  · rw [Option.map_id]
    rfl

/-- A plugin that keeps no attempts and marks the service URL. -/
def markingOperations : Gateway.CustomResolver where
  consume _ _ memory := (.ok false, memory)
  remember _ serviceUrl _ memory := (.ok (serviceUrl ++ "?gw=1".toList), memory)

/-- A silent gate with a plugin for a resolver. -/
def markingGate : Gate :=
  .withOptions { gateway := true, resolver := .custom "Marking".toList (some markingOperations) }

/-- A URL that brings a ticket between two fields, and a fragment behind them. -/
def ticketFrame : FieldFrame where
  front := "http://app.example.org/home".toList
  earlier := "lang=de&".toList
  later := "&page=2#top".toList
  front_noQuery := by decide
  front_noFragment := by decide
  earlier_noFragment := by decide
  earlier_ends := fun _ isLast => (Option.some.inj isLast).symm
  later_starts := fun _ isHead => Or.inl (Option.some.inj isHead).symm

/-- A visit of the marking gate, as it is logged. -/
def loggedVisit (request : Request) (mark : Text) : List (Text × Option Text) :=
  logRows ["cas-1".toList] (markingGate.process request ⟨mark, mark⟩ {} {})

end Gate

end SignOnGate
