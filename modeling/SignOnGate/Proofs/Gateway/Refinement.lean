import Mathlib.Data.Set.Function
import SignOnGate.Proofs.Gateway.SharedStore

/-!
# The shared store against the sessions

Any number of clients call a resolver in any order. The same calls are made once with the attempts
in the sessions and once with them in the shared store, and the two runs give the same answers. The
simulation relation keeps one set of pending attempts for each client: the client's session stands
for it on one side, and on the other side the shared store awaits exactly its members.
-/

namespace SignOnGate

namespace Gateway

universe u

/-- The sessions of all clients, and the store that they share. -/
structure World (ι : Type u) where
  sessions : ι → Option Session
  shared : SharedStore := .empty

/-- What a resolver is asked for. -/
inductive Operation where
  | consume
  | remember (fresh : Fresh)

/-- A call of a resolver on behalf of a client. -/
structure Call (ι : Type u) where
  client : ι
  request : Request
  serviceUrl : Text
  operation : Operation

/-- What a caller gets to see of a call. -/
inductive Answer where
  | returning (result : Except Fault Bool)
  | settled (result : Except Fault Text)
  deriving DecidableEq

variable {ι : Type u}

/-- The answer to a call, and what is remembered after it. -/
def Resolver.answer (resolver : Resolver) (call : Call ι) (memory : Memory) : Answer × Memory :=
  match call.operation with
  | .consume =>
      let step := resolver.consume call.request call.serviceUrl memory
      (.returning step.1, step.2)
  | .remember fresh =>
      let step := resolver.remember call.request call.serviceUrl fresh memory
      (.settled step.1, step.2)

namespace World

/-- What is remembered for a client. -/
def memory (world : World ι) (client : ι) : Memory :=
  { session := world.sessions client, shared := world.shared }

/-- The id under which the shared store knows a client. -/
def id? (world : World ι) (client : ι) : Option Text :=
  (world.sessions client).bind Resolver.sessionId?

/-- The session id that a call mints: remembering mints one for a session that has none. -/
def mintedBy (world : World ι) (call : Call ι) : List Text :=
  match call.operation, world.sessions call.client, world.id? call.client with
  | .remember fresh, some _, none => [fresh.sessionId]
  | _, _, _ => []

theorem mintedBy_remember {world : World ι} {client : ι} {session : Session}
    (found : world.sessions client = some session) (request : Request) (serviceUrl : Text)
    (fresh : Fresh) :
    world.mintedBy ⟨client, request, serviceUrl, .remember fresh⟩ =
      if world.id? client = none then [fresh.sessionId] else [] := by
  simp only [mintedBy, found]
  cases world.id? client <;> rfl

variable [DecidableEq ι]

/-- The world after what is remembered for a client has changed. -/
def settle (world : World ι) (client : ι) (memory : Memory) : World ι where
  sessions := Function.update world.sessions client memory.session
  shared := memory.shared

/-- The world after a call. -/
def after (resolver : Resolver) (world : World ι) (call : Call ι) : World ι :=
  world.settle call.client (resolver.answer call (world.memory call.client)).2

/-- The answers to a row of calls. -/
def answers (resolver : Resolver) : World ι → List (Call ι) → List Answer
  | _, [] => []
  | world, call :: calls =>
      (resolver.answer call (world.memory call.client)).1 ::
        answers resolver (world.after resolver call) calls

/-- The session ids that a row of calls mints. -/
def minted (resolver : Resolver) : World ι → List (Call ι) → List Text
  | _, [] => []
  | world, call :: calls =>
      world.mintedBy call ++ minted resolver (world.after resolver call) calls

theorem id?_settle (world : World ι) (client other : ι) (memory : Memory) :
    (world.settle client memory).id? other =
      if other = client then memory.session.bind Resolver.sessionId? else world.id? other := by
  by_cases same : other = client <;> simp [id?, settle, Function.update, same]

theorem sessionValue?_settle (world : World ι) (client other : ι) (memory : Memory) (key : Text) :
    ((world.settle client memory).memory other).sessionValue? key =
      if other = client then memory.sessionValue? key
      else (world.memory other).sessionValue? key := by
  by_cases same : other = client <;>
    simp [World.memory, Memory.sessionValue?, settle, Function.update, same]

@[simp]
theorem settle_memory (world : World ι) (client : ι) :
    world.settle client (world.memory client) = world := by
  simp [settle, memory]

theorem sessions_settle (world : World ι) (client other : ι) (memory : Memory) :
    (world.settle client memory).sessions other =
      if other = client then memory.session else world.sessions other := by
  by_cases same : other = client <;> simp [settle, Function.update, same]

end World

/--
Two worlds stand for the same pending attempts of every client, as far as `keys` are concerned. On
the side of the shared store no two clients have one id, and every entry belongs to a client.
-/
structure Simulates (attemptsKey keyStart : Text) (keys : Set Text) (left right : World ι)
    (pending : ι → Set Text) : Prop where
  present : ∀ client, left.sessions client = none ↔ right.sessions client = none
  stored : ∀ client,
    Attempts.Stored ((left.memory client).sessionValue? attemptsKey) (pending client)
  awaits : ∀ client, ∀ attempt ∈ keys, attempt ∈ pending client ↔
    ∃ id, right.id? client = some id ∧
      right.shared.contains (keyStart ++ id ++ ':' :: Sha256.hex attempt) = true
  distinct : ∀ one other id, right.id? one = some id → right.id? other = some id → one = other
  owned : ∀ id attempt,
    right.shared.contains (keyStart ++ id ++ ':' :: Sha256.hex attempt) = true →
      ∃ client, right.id? client = some id

namespace Simulates

variable [DecidableEq ι] {attemptsKey keyStart : Text} {keys : Set Text} {left right : World ι}
  {pending : ι → Set Text}

/--
What a call on behalf of a client has to leave for the simulation to go on: the client's session and
its entries agree on what is pending for it, it keeps the id it had, no other client has that id,
and the entries under other ids stay.
-/
theorem settle (simulates : Simulates attemptsKey keyStart keys left right pending) {client : ι}
    {leftAfter rightAfter : Memory} {pendingAfter : Set Text}
    (present : leftAfter.session = none ↔ rightAfter.session = none)
    (stored : Attempts.Stored (leftAfter.sessionValue? attemptsKey) pendingAfter)
    (awaits : ∀ attempt ∈ keys, attempt ∈ pendingAfter ↔
      ∃ id, rightAfter.session.bind Resolver.sessionId? = some id ∧
        rightAfter.shared.contains (keyStart ++ id ++ ':' :: Sha256.hex attempt) = true)
    (keepsId : ∀ id, right.id? client = some id →
      rightAfter.session.bind Resolver.sessionId? = some id)
    (ownId : ∀ other id, other ≠ client → right.id? other = some id →
      rightAfter.session.bind Resolver.sessionId? ≠ some id)
    (frame : ∀ id attempt, rightAfter.session.bind Resolver.sessionId? ≠ some id →
      (rightAfter.shared.contains (keyStart ++ id ++ ':' :: Sha256.hex attempt) = true ↔
        right.shared.contains (keyStart ++ id ++ ':' :: Sha256.hex attempt) = true)) :
    Simulates attemptsKey keyStart keys (left.settle client leftAfter)
      (right.settle client rightAfter) (Function.update pending client pendingAfter) := by
  refine ⟨?_, ?_, ?_, ?_, ?_⟩
  · intro other
    rw [World.sessions_settle, World.sessions_settle]
    split
    · exact present
    · exact simulates.present other
  · intro other
    by_cases isClient : other = client
    · subst isClient
      rw [World.sessionValue?_settle, if_pos rfl, Function.update_self]
      exact stored
    · rw [World.sessionValue?_settle, if_neg isClient, Function.update_of_ne isClient]
      exact simulates.stored other
  · intro other attempt member
    by_cases isClient : other = client
    · subst isClient
      simp only [World.id?_settle, if_true, Function.update_self]
      exact awaits attempt member
    · simp only [World.id?_settle, if_neg isClient]
      rw [Function.update_of_ne isClient, simulates.awaits other attempt member]
      constructor
      · rintro ⟨id, known, contained⟩
        exact ⟨id, known, (frame id attempt (ownId other id isClient known)).mpr contained⟩
      · rintro ⟨id, known, contained⟩
        exact ⟨id, known, (frame id attempt (ownId other id isClient known)).mp contained⟩
  · intro one other id oneKnown otherKnown
    rw [World.id?_settle] at oneKnown otherKnown
    split at oneKnown <;> split at otherKnown
    · rename_i oneIs otherIs
      exact oneIs.trans otherIs.symm
    · rename_i oneIs otherIsNot
      exact absurd oneKnown (ownId other id otherIsNot otherKnown)
    · rename_i oneIsNot otherIs
      exact absurd otherKnown (ownId one id oneIsNot oneKnown)
    · exact simulates.distinct one other id oneKnown otherKnown
  · intro id attempt contained
    by_cases clients : rightAfter.session.bind Resolver.sessionId? = some id
    · exact ⟨client, by rw [World.id?_settle, if_pos rfl, clients]⟩
    · rcases simulates.owned id attempt ((frame id attempt clients).mp contained) with
        ⟨owner, known⟩
      have isNotClient : owner ≠ client := by
        rintro rfl
        exact clients (keepsId id known)
      exact ⟨owner, by rw [World.id?_settle, if_neg isNotClient, known]⟩

/-- Both sides give the same answer when an attempt is consumed, and it is pending no longer. -/
theorem consume (simulates : Simulates attemptsKey keyStart keys left right pending)
    (collisionFree : Set.InjOn Sha256.hex keys) (seconds : Int) (client : ι) (request : Request)
    {serviceUrl : Text} (member : key serviceUrl ∈ keys) :
    ∃ returning leftAfter rightAfter,
      (Resolver.session attemptsKey).consume request serviceUrl (left.memory client) =
        (.ok returning, leftAfter) ∧
      (Resolver.shared seconds keyStart).consume request serviceUrl (right.memory client) =
        (.ok returning, rightAfter) ∧
      rightAfter.session = right.sessions client ∧
      Simulates attemptsKey keyStart keys (left.settle client leftAfter)
        (right.settle client rightAfter)
        (Function.update pending client (pending client \ {key serviceUrl})) := by
  rcases Resolver.exists_consume (Resolver.builtIn_session attemptsKey) request serviceUrl
    (left.memory client) with ⟨returning, leftAfter, leftRun, -⟩
  rcases Resolver.stored_of_consume (simulates.stored client) leftRun with
    ⟨returning_iff, storedAfter⟩
  rcases Resolver.exists_consume (Resolver.builtIn_shared seconds keyStart) request serviceUrl
    (right.memory client) with ⟨answer, rightAfter, rightRun, answer_iff⟩
  have same : answer = returning := by
    rw [Bool.eq_iff_iff, answer_iff, returning_iff, simulates.awaits client _ member]
    rfl
  subst same
  have presentAfter := Resolver.session_consume_eq_none_iff attemptsKey request serviceUrl
    (left.memory client)
  have rightSession := Resolver.session_consume_shared seconds keyStart request serviceUrl
    (right.memory client)
  have rightShared := Resolver.contains_consume_shared seconds keyStart request serviceUrl
    (right.memory client)
  rw [leftRun] at presentAfter
  rw [rightRun] at rightSession rightShared
  have sameId : rightAfter.session.bind Resolver.sessionId? = right.id? client := by
    rw [rightSession]
    rfl
  refine ⟨answer, leftAfter, rightAfter, leftRun, rightRun, rightSession, ?_⟩
  apply simulates.settle
  · rw [presentAfter, rightSession]
    exact simulates.present client
  · exact storedAfter
  · intro attempt attemptMember
    rw [sameId, Set.mem_sdiff, Set.mem_singleton_iff, simulates.awaits client _ attemptMember]
    constructor
    · rintro ⟨⟨id, known, contained⟩, different⟩
      refine ⟨id, known, (rightShared id attempt).mpr ⟨contained, ?_⟩⟩
      rintro ⟨-, sameDigest⟩
      exact different (collisionFree attemptMember member sameDigest)
    · rintro ⟨id, known, contained⟩
      rcases (rightShared id attempt).mp contained with ⟨contained, notConsumed⟩
      refine ⟨⟨id, known, contained⟩, ?_⟩
      rintro rfl
      exact notConsumed ⟨known, rfl⟩
  · intro id known
    rw [sameId, known]
  · intro other id isNotClient known
    rw [sameId]
    intro clientKnown
    exact isNotClient (simulates.distinct other client id known clientKnown)
  · intro id attempt notClients
    rw [sameId] at notClients
    rw [rightShared id attempt]
    refine and_iff_left ?_
    rintro ⟨known, -⟩
    exact notClients known

/-- Both sides keep an attempt for a client with a session, and it is pending from then on. -/
theorem remember (simulates : Simulates attemptsKey keyStart keys left right pending)
    (collisionFree : Set.InjOn Sha256.hex keys) (seconds : Int) (client : ι) (request : Request)
    {serviceUrl : Text} (member : key serviceUrl ∈ keys) (fresh : Fresh) {session : Session}
    (found : right.sessions client = some session)
    (minted : right.id? client = none → fresh.sessionId ≠ [])
    (unused : right.id? client = none → ∀ other, right.id? other ≠ some fresh.sessionId) :
    ∃ leftAfter rightAfter,
      (Resolver.session attemptsKey).remember request serviceUrl fresh (left.memory client) =
        (.ok serviceUrl, leftAfter) ∧
      (Resolver.shared seconds keyStart).remember request serviceUrl fresh
        (right.memory client) = (.ok serviceUrl, rightAfter) ∧
      rightAfter.session.bind Resolver.sessionId? =
        some ((right.id? client).getD fresh.sessionId) ∧
      Simulates attemptsKey keyStart keys (left.settle client leftAfter)
        (right.settle client rightAfter)
        (Function.update pending client (insert (key serviceUrl) (pending client))) := by
  have leftPresent : (left.memory client).session ≠ none := by
    intro absent
    have rightAbsent := (simulates.present client).mp absent
    rw [found] at rightAbsent
    cases rightAbsent
  rcases Resolver.exists_remember_of_stored (simulates.stored client) leftPresent request
    serviceUrl fresh with ⟨leftAfter, leftRun, leftPresentAfter, storedAfter⟩
  rcases Resolver.exists_remember_shared seconds keyStart request serviceUrl
    (right.memory client) found minted with
    ⟨rightAfter, rightRun, rightPresentAfter, rightId, rightShared⟩
  change rightAfter.session.bind Resolver.sessionId? =
    some ((right.id? client).getD fresh.sessionId) at rightId
  change ∀ id attempt, rightAfter.shared.contains (keyStart ++ id ++ ':' :: Sha256.hex attempt) =
    true ↔ (id = (right.id? client).getD fresh.sessionId ∧
      Sha256.hex attempt = Sha256.hex (key serviceUrl)) ∨
      right.shared.contains (keyStart ++ id ++ ':' :: Sha256.hex attempt) = true at rightShared
  refine ⟨leftAfter, rightAfter, leftRun, rightRun, rightId, ?_⟩
  generalize idName : (right.id? client).getD fresh.sessionId = clientId at rightId rightShared
  have same (id : Text) (known : right.id? client = some id) : id = clientId := by
    rw [← idName, known, Option.getD_some]
  -- The id of the client is its own: it either had it before, or it is a new one.
  have own (other : ι) (known : right.id? other = some clientId) : other = client := by
    cases before : right.id? client with
    | some id =>
        rw [before, Option.getD_some] at idName
        subst idName
        exact simulates.distinct other client id known before
    | none =>
        rw [before, Option.getD_none] at idName
        subst idName
        exact absurd known (unused before other)
  apply simulates.settle
  · exact iff_of_false leftPresentAfter rightPresentAfter
  · exact storedAfter
  · intro attempt attemptMember
    simp only [rightId, Option.some.injEq, exists_eq_left']
    rw [Set.mem_insert_iff, simulates.awaits client _ attemptMember, rightShared clientId attempt]
    constructor
    · rintro (rfl | ⟨id, known, contained⟩)
      · exact Or.inl ⟨rfl, rfl⟩
      · rw [same id known] at contained
        exact Or.inr contained
    · rintro (⟨-, sameDigest⟩ | contained)
      · exact Or.inl (collisionFree attemptMember member sameDigest)
      · rcases simulates.owned clientId attempt contained with ⟨owner, known⟩
        rw [own owner known] at known
        exact Or.inr ⟨clientId, known, contained⟩
  · intro id known
    rw [rightId, same id known]
  · intro other id isNotClient known
    rw [rightId, ne_eq, Option.some.injEq]
    rintro rfl
    exact isNotClient (own other known)
  · intro id attempt notClients
    rw [rightId, ne_eq, Option.some.injEq] at notClients
    rw [rightShared id attempt]
    refine or_iff_right ?_
    rintro ⟨rfl, -⟩
    exact notClients rfl

omit [DecidableEq ι] in
/-- Both sides refuse to remember an attempt for a client without a session, in the same words. -/
theorem remember_absent (simulates : Simulates attemptsKey keyStart keys left right pending)
    (seconds : Int) {client : ι} (absent : right.sessions client = none) (request : Request)
    (serviceUrl : Text) (fresh : Fresh) :
    (Resolver.session attemptsKey).remember request serviceUrl fresh (left.memory client) =
        (.error (Resolver.withoutSession request), left.memory client) ∧
      (Resolver.shared seconds keyStart).remember request serviceUrl fresh (right.memory client) =
        (.error (Resolver.withoutSession request), right.memory client) := by
  have leftAbsent := (simulates.present client).mpr absent
  simp [Resolver.remember, World.memory, leftAbsent, absent]

/-- From worlds that simulate each other, the same calls get the same answers. -/
theorem answers_eq (simulates : Simulates attemptsKey keyStart keys left right pending)
    (collisionFree : Set.InjOn Sha256.hex keys) (seconds : Int) (calls : List (Call ι))
    (members : ∀ call ∈ calls, key call.serviceUrl ∈ keys)
    (minted_ne_nil : [] ∉ right.minted (.shared seconds keyStart) calls)
    (minted_nodup : (right.minted (.shared seconds keyStart) calls).Nodup)
    (unused : ∀ client id, right.id? client = some id →
      id ∉ right.minted (.shared seconds keyStart) calls) :
    left.answers (.session attemptsKey) calls = right.answers (.shared seconds keyStart) calls := by
  induction calls generalizing left right pending with
  | nil => rfl
  | cons call calls ih =>
      obtain ⟨client, request, serviceUrl, operation⟩ := call
      have member : key serviceUrl ∈ keys :=
        members ⟨client, request, serviceUrl, operation⟩ List.mem_cons_self
      have membersAfter : ∀ call ∈ calls, key call.serviceUrl ∈ keys := by
        intro call callMember
        exact members call (List.mem_cons_of_mem _ callMember)
      simp only [World.minted, World.after, Resolver.answer] at minted_ne_nil minted_nodup unused
      simp only [World.answers, World.after, Resolver.answer, List.cons.injEq]
      cases operation with
      | consume =>
          rcases simulates.consume collisionFree seconds client request member with
            ⟨returning, leftAfter, rightAfter, leftRun, rightRun, rightSession, after⟩
          simp only [rightRun, World.mintedBy, List.nil_append] at minted_ne_nil minted_nodup unused
          simp only [leftRun, rightRun, true_and]
          refine ih after membersAfter minted_ne_nil minted_nodup ?_
          intro other id known
          rw [World.id?_settle] at known
          split at known
          · rename_i isClient
            rw [rightSession] at known
            exact unused client id known
          · exact unused other id known
      | remember fresh =>
          cases found : right.sessions client with
          | none =>
              rcases simulates.remember_absent seconds found request serviceUrl fresh with
                ⟨leftRun, rightRun⟩
              simp only [rightRun, World.mintedBy, found, List.nil_append, World.settle_memory]
                at minted_ne_nil minted_nodup unused
              simp only [leftRun, rightRun, World.settle_memory, true_and]
              exact ih simulates membersAfter minted_ne_nil minted_nodup unused
          | some session =>
              rw [World.mintedBy_remember found] at minted_ne_nil minted_nodup unused
              have minted (noId : right.id? client = none) : fresh.sessionId ≠ [] := by
                intro empty
                simp [noId, empty] at minted_ne_nil
              have isNew (noId : right.id? client = none) (other : ι) :
                  right.id? other ≠ some fresh.sessionId := by
                intro known
                simpa [noId] using unused other _ known
              rcases simulates.remember collisionFree seconds client request member fresh found
                minted isNew with ⟨leftAfter, rightAfter, leftRun, rightRun, rightId, after⟩
              simp only [rightRun] at minted_ne_nil minted_nodup unused
              simp only [leftRun, rightRun, true_and]
              refine ih after membersAfter ?_ (List.nodup_append.mp minted_nodup).2.1 ?_
              · intro mintedLater
                exact minted_ne_nil (List.mem_append_right _ mintedLater)
              · intro other id known mintedLater
                rw [World.id?_settle] at known
                split at known
                · rw [rightId, Option.some.injEq] at known
                  cases before : right.id? client with
                  | some clientId =>
                      rw [before, Option.getD_some] at known
                      subst known
                      exact unused client clientId before (List.mem_append_right _ mintedLater)
                  | none =>
                      rw [before, Option.getD_none] at known
                      subst known
                      rw [if_pos before] at minted_nodup
                      exact (List.nodup_cons.mp minted_nodup).1 mintedLater
                · exact unused other id known (List.mem_append_right _ mintedLater)

end Simulates

/--
On clients whose sessions are empty at first, or missing, the shared store and the sessions answer
any row of calls alike, provided that the session ids that are minted are not empty and differ, and
that the digest tells the attempts of the calls apart.
-/
theorem shared_answers_eq_session_answers [DecidableEq ι] (attemptsKey keyStart : Text)
    (seconds : Int) (sessions : ι → Option Session)
    (empty : ∀ client session, sessions client = some session → session = .empty)
    (calls : List (Call ι))
    (minted_ne_nil : [] ∉ World.minted (.shared seconds keyStart) { sessions } calls)
    (minted_nodup : (World.minted (.shared seconds keyStart) { sessions } calls).Nodup)
    (collisionFree : ∀ left ∈ calls, ∀ right ∈ calls,
      Sha256.hex (key left.serviceUrl) = Sha256.hex (key right.serviceUrl) →
      key left.serviceUrl = key right.serviceUrl) :
    World.answers (.shared seconds keyStart) { sessions } calls =
      World.answers (.session attemptsKey) { sessions } calls := by
  have noId (client : ι) : World.id? { sessions } client = none := by
    cases found : sessions client with
    | none => simp [World.id?, found]
    | some session =>
        rw [empty client session found] at found
        simp [World.id?, found, Resolver.sessionId?]
  have simulates : Simulates attemptsKey keyStart
      {attempt | ∃ call ∈ calls, key call.serviceUrl = attempt} { sessions } { sessions }
      (fun _ => ∅) := by
    refine ⟨fun _ => Iff.rfl, ?_, ?_, ?_, ?_⟩
    · intro client
      have noEntry : (World.memory { sessions } client).sessionValue? attemptsKey = none := by
        cases found : sessions client with
        | none => simp [World.memory, Memory.sessionValue?, found]
        | some session =>
            rw [empty client session found] at found
            simp [World.memory, Memory.sessionValue?, found]
      rw [noEntry]
      exact .absent
    · intro client attempt member
      simp [noId]
    · intro one other id known
      simp [noId] at known
    · intro id attempt contained
      simp [OrderedMap.contains] at contained
  refine (simulates.answers_eq ?_ seconds calls ?_ minted_ne_nil minted_nodup ?_).symm
  · rintro _ ⟨left, leftMember, rfl⟩ _ ⟨right, rightMember, rfl⟩ same
    exact collisionFree left leftMember right rightMember same
  · intro call member
    exact ⟨call, member, rfl⟩
  · intro client id known
    simp [noId] at known

/-- A page of an application. -/
def homePage : Text := "http://app.example.org/home".toList

/-- Another page of the application. -/
def helpPage : Text := "http://app.example.org/help".toList

/-- Three clients, the last of which has no session. -/
def threeSessions (client : Fin 3) : Option Session :=
  if client = 2 then none else some .empty

/-- Visits of the three clients to the two pages in turn. -/
def mixedCalls : List (Call (Fin 3)) :=
  let request : Request := .ofFields homePage [] none
  [ ⟨0, request, homePage, .remember ⟨['m'], ['s']⟩⟩,
    ⟨1, request, helpPage, .remember ⟨['n'], ['t']⟩⟩,
    ⟨1, request, homePage, .consume⟩,
    ⟨0, request, homePage, .consume⟩,
    ⟨0, request, homePage, .consume⟩,
    ⟨2, request, homePage, .remember ⟨['o'], ['u']⟩⟩ ]

/-- Only the first client has left the first page, and comes back to it once. -/
theorem shared_answers_tell_clients_apart :
    World.answers (.shared 60 ['g']) { sessions := threeSessions } mixedCalls =
      [.settled (.ok homePage), .settled (.ok helpPage), .returning (.ok false),
        .returning (.ok true), .returning (.ok false),
        .settled (.error (.sessionRequired homePage))] := by
  have minted : World.minted (.shared 60 ['g']) { sessions := threeSessions } mixedCalls =
      [['s'], ['t']] := by decide +kernel
  refine (shared_answers_eq_session_answers attemptsKey ['g'] 60 threeSessions ?_ mixedCalls
    ?_ ?_ ?_).trans (by decide +kernel)
  · intro client session found
    rw [threeSessions] at found
    split at found
    · cases found
    · exact (Option.some.inj found).symm
  · rw [minted]
    decide
  · rw [minted]
    decide
  · decide +kernel

end Gateway

end SignOnGate
