import Mathlib.Data.List.Induction
import Mathlib.Data.List.Infix
import SignOnGate.Correlation.Ambient
import SignOnGate.Proofs.OrderedMap

/-!
# Contexts nest

What a sequence of operations leaves open is read off the sequence itself: a context is open when
all that was opened behind it has been closed again. The variable with the tokens follows this
reading, and so does the stack of ids: the current id is that of the innermost open context, and
closing a context brings back what was there before it was opened.
-/

namespace SignOnGate

namespace Correlation

/-! ## What is open -/

namespace Operation

/-- Whether an operation opens a context. -/
def opens : Operation → Bool
  | enter _ _ => true
  | _ => false

/-- Whether an operation closes a context. -/
def closes : Operation → Bool
  | leave => true
  | _ => false

end Operation

/-- Operations that close all that they open. -/
inductive Balanced : List Operation → Prop where
  | nil : Balanced []
  | quiet (operation : Operation) (opens_eq : operation.opens = false)
      (closes_eq : operation.closes = false) : Balanced [operation]
  | nest (given : Option Text) (random : Nat) {inside : List Operation}
      (balanced : Balanced inside) : Balanced (.enter given random :: inside ++ [.leave])
  | append {first second : List Operation} (balanced : Balanced first)
      (balancedToo : Balanced second) : Balanced (first ++ second)

/-- The id of a context: the one that it was opened for, unless that is missing or empty. -/
structure Names (given : Option Text) (random : Nat) (id : Text) : Prop where
  eq_given : ∀ asked, given = some asked → asked ≠ [] → id = asked
  eq_minted : given = none ∨ given = some [] → id = mint random

/-- The contexts that operations leave open, the innermost first. -/
inductive LeavesOpen : List Operation → Stack → Prop where
  | nothing {operations : List Operation} (balanced : Balanced operations) :
      LeavesOpen operations []
  | context {before inside : List Operation} {outer : Stack} (around : LeavesOpen before outer)
      (given : Option Text) (random : Nat) (id : Text) (names : Names given random id)
      (balanced : Balanced inside) :
      LeavesOpen (before ++ .enter given random :: inside) (id :: outer)

/-- Operations that never close a context where none is open. -/
def Paired (operations : List Operation) : Prop :=
  ∀ front, front <+: operations → front.countP Operation.closes ≤ front.countP Operation.opens

variable {operations before inside : List Operation} {ambient : Ambient} {stack : Stack}

/-- The id that is chosen for a context is the one that the context is named by. -/
theorem names_chosen (given : Option Text) (random : Nat) :
    Names given random (chosen given (mint random)) := by
  constructor
  · rintro asked rfl asked_ne_nil
    cases asked with
    | nil => exact absurd rfl asked_ne_nil
    | cons head rest => rfl
  · rintro (rfl | rfl) <;> rfl

theorem Names.eq_chosen {given : Option Text} {random : Nat} {id : Text}
    (names : Names given random id) : id = chosen given (mint random) := by
  match given with
  | none => exact names.eq_minted (Or.inl rfl)
  | some [] => exact names.eq_minted (Or.inr rfl)
  | some (head :: rest) => exact names.eq_given _ rfl nofun

theorem mint_ne_nil (random : Nat) : mint random ≠ [] :=
  nofun

theorem Names.ne_nil {given : Option Text} {random : Nat} {id : Text}
    (names : Names given random id) : id ≠ [] := by
  rw [names.eq_chosen]
  match given with
  | none => exact mint_ne_nil random
  | some [] => exact mint_ne_nil random
  | some (head :: rest) => exact nofun

/-- Operations that close all that they open close as often as they open. -/
theorem Balanced.count_eq (balanced : Balanced operations) :
    operations.countP Operation.closes = operations.countP Operation.opens := by
  induction balanced with
  | nil => rfl
  | quiet operation opens_eq closes_eq => simp [opens_eq, closes_eq]
  | nest given random balanced ih =>
      simp [List.countP_cons, Operation.opens, Operation.closes, ih]
  | append balanced balancedToo ih ihToo => simp [ih, ihToo]

/-- Operations that close all that they open leave open what was open before. -/
theorem LeavesOpen.append (leavesOpen : LeavesOpen operations stack) (balanced : Balanced inside) :
    LeavesOpen (operations ++ inside) stack := by
  cases leavesOpen with
  | nothing earlier => exact .nothing (earlier.append balanced)
  | context around given random id names earlier =>
      rw [List.append_assoc, List.cons_append]
      exact .context around given random id names (earlier.append balanced)

theorem Paired.of_append (paired : Paired (operations ++ inside)) : Paired operations :=
  fun front inFront => paired front (inFront.trans (List.prefix_append _ _))

/-- Closing a context leaves open what was open before it was opened. -/
theorem LeavesOpen.of_leave (leavesOpen : LeavesOpen operations stack)
    (paired : Paired (operations ++ [.leave])) :
    ∃ before given random inside, operations = before ++ .enter given random :: inside ∧
      Balanced inside ∧ LeavesOpen before stack.tail := by
  cases leavesOpen with
  | nothing balanced =>
      have counted := paired _ (List.prefix_refl _)
      rw [List.countP_append, List.countP_append, balanced.count_eq] at counted
      have closed : [Operation.leave].countP Operation.closes = 1 := rfl
      have notOpened : [Operation.leave].countP Operation.opens = 0 := rfl
      omega
  | context around given random id names balanced =>
      exact ⟨_, given, random, _, rfl, balanced, around⟩

/-- Whatever operations that never close too much have opened, it can be told what is open. -/
theorem exists_leavesOpen (paired : Paired operations) : ∃ stack, LeavesOpen operations stack := by
  induction operations using List.reverseRecOn with
  | nil => exact ⟨[], .nothing .nil⟩
  | append_singleton earlier operation ih =>
      rcases ih paired.of_append with ⟨stack, leavesOpen⟩
      cases operation with
      | enter given random =>
          exact ⟨_, .context leavesOpen given random _ (names_chosen given random) .nil⟩
      | leave =>
          rcases leavesOpen.of_leave paired with
            ⟨before, given, random, inside, rfl, balanced, around⟩
          refine ⟨stack.tail, ?_⟩
          rw [List.append_assoc]
          exact around.append (.nest given random balanced)
      | read => exact ⟨stack, leavesOpen.append (.quiet .read rfl rfl)⟩
      | log extra => exact ⟨stack, leavesOpen.append (.quiet (.log extra) rfl rfl)⟩

/-! ## The variable follows what is open -/

namespace Ambient

theorem after_append (ambient : Ambient) (first second : List Operation) :
    ambient.after (first ++ second) = (ambient.after first).after second :=
  List.foldl_append

theorem perform_quiet (ambient : Ambient) {operation : Operation}
    (opens_eq : operation.opens = false) (closes_eq : operation.closes = false) :
    (ambient.perform operation).1 = ambient := by
  cases operation with
  | enter given random => cases opens_eq
  | leave => cases closes_eq
  | read => rfl
  | log extra => rfl

/-- Operations that close all that they open leave the variable and the tokens as they were. -/
theorem after_balanced (balanced : Balanced operations) (ambient : Ambient) :
    ambient.after operations = ambient := by
  induction balanced generalizing ambient with
  | nil => rfl
  | quiet operation opens_eq closes_eq => exact ambient.perform_quiet opens_eq closes_eq
  | @nest given random inside balanced ih =>
      calc
        ambient.after (.enter given random :: inside ++ [.leave])
        _ = (((ambient.perform (.enter given random)).1.after inside).perform .leave).1 :=
            after_append _ (.enter given random :: inside) [.leave]
        _ = ((ambient.perform (.enter given random)).1.perform .leave).1 := by rw [ih]
        _ = ambient := rfl
  | append balanced balancedToo ih ihToo => rw [after_append, ih, ihToo]

theorem after_context (balanced : Balanced inside) (ambient : Ambient) (before : List Operation)
    (given : Option Text) (random : Nat) :
    ambient.after (before ++ .enter given random :: inside) =
      ((ambient.after before).perform (.enter given random)).1 := by
  rw [after_append]
  exact after_balanced balanced _

/-- The variable and the tokens that go with a stack of open contexts. -/
def ofStack : Stack → Ambient
  | [] => {}
  | id :: outer =>
    { current := some id, tokens := (ofStack outer).current :: (ofStack outer).tokens }

theorem current_ofStack (stack : Stack) : (ofStack stack).current = current? stack := by
  cases stack <;> rfl

/-- The variable with its tokens tells the whole stack. -/
theorem ofStack_injective : Function.Injective ofStack := by
  intro first second same
  induction first generalizing second with
  | nil =>
      cases second with
      | nil => rfl
      | cons id outer => cases same
  | cons id outer ih =>
      cases second with
      | nil => cases same
      | cons other outerToo =>
          injection same with sameId sameTokens
          injection sameTokens with sameCurrent sameOuter
          have sameAmbient : ofStack outer = ofStack outerToo :=
            calc
              ofStack outer
              _ = ⟨(ofStack outer).current, (ofStack outer).tokens⟩ := rfl
              _ = ⟨(ofStack outerToo).current, (ofStack outerToo).tokens⟩ := by
                  rw [sameCurrent, sameOuter]
              _ = ofStack outerToo := rfl
          rw [Option.some.inj sameId, ih sameAmbient]

/-- What is open decides about the variable and all tokens. -/
theorem after_eq_ofStack (leavesOpen : LeavesOpen operations stack) :
    after {} operations = ofStack stack := by
  induction leavesOpen with
  | nothing balanced => exact after_balanced balanced {}
  | context around given random id names balanced ih =>
      rw [after_context balanced, ih, names.eq_chosen]
      rfl

/-- Closing a context brings back all that was there before it was opened. -/
theorem exists_after_leave (paired : Paired (operations ++ [.leave])) :
    ∃ before given random inside, operations = before ++ .enter given random :: inside ∧
      Balanced inside ∧ after {} (operations ++ [.leave]) = after {} before := by
  rcases exists_leavesOpen paired.of_append with ⟨stack, leavesOpen⟩
  rcases leavesOpen.of_leave paired with ⟨before, given, random, inside, rfl, balanced, -⟩
  refine ⟨before, given, random, inside, rfl, balanced, ?_⟩
  rw [List.append_assoc, after_append]
  exact after_balanced (.nest given random balanced) _

end Ambient

/-! ## The stack follows it too -/

/-- An operation on the stack of ids. -/
def stackStep (stack : Stack) : Operation → Stack
  | .enter given random => enter stack given (mint random)
  | .leave => leave stack
  | .read | .log _ => stack

/-- The stack of ids that operations leave, one after the other. -/
def stackAfter (operations : List Operation) : Stack :=
  operations.foldl stackStep []

/-- One operation on the stack is the same operation on the variable. -/
theorem ofStack_stackStep (stack : Stack) (operation : Operation) :
    Ambient.ofStack (stackStep stack operation) =
      ((Ambient.ofStack stack).perform operation).1 := by
  cases operation with
  | leave => cases stack <;> rfl
  | _ => rfl

/-- The variable with its tokens is the stack in another form. -/
theorem ofStack_stackAfter (operations : List Operation) :
    Ambient.ofStack (stackAfter operations) = Ambient.after {} operations :=
  (List.foldl_hom Ambient.ofStack fun stack operation =>
    (ofStack_stackStep stack operation).symm).symm

theorem stackAfter_eq (leavesOpen : LeavesOpen operations stack) : stackAfter operations = stack :=
  Ambient.ofStack_injective
    ((ofStack_stackAfter operations).trans (Ambient.after_eq_ofStack leavesOpen))

theorem LeavesOpen.ne_nil (leavesOpen : LeavesOpen operations stack) : ∀ id ∈ stack, id ≠ [] := by
  induction leavesOpen with
  | nothing balanced => exact nofun
  | context around given random id names balanced ih =>
      intro other member
      rcases List.mem_cons.mp member with rfl | inOuter
      · exact names.ne_nil
      · exact ih other inOuter

/--
Contexts nest. After any operations that never close too much, the variable holds the id of the
innermost context that is left open, as the stack of ids has it, and no id is empty. If the last
operation closes a context, everything is as it was before that context was opened. Asking gives the
current id, and a record is passed on with its own entries, and with the current id behind them
unless it has brought one.
-/
theorem contexts_nest (operations : List Operation) (paired : Paired operations) :
    (∃ stack, LeavesOpen operations stack) ∧
    (∀ stack, LeavesOpen operations stack →
      (Ambient.after {} operations).current = current? stack ∧ stackAfter operations = stack ∧
        ∀ id ∈ stack, id ≠ []) ∧
    (∀ earlier, operations = earlier ++ [.leave] →
      ∃ before given random inside, earlier = before ++ .enter given random :: inside ∧
        Balanced inside ∧ Ambient.after {} operations = Ambient.after {} before) ∧
    (Ambient.after {} operations).perform .read =
      (Ambient.after {} operations, .found (Ambient.after {} operations).current) ∧
    ∀ extra, ∃ passed, (Ambient.after {} operations).perform (.log extra) =
        (Ambient.after {} operations, .passedOn passed) ∧
      passed.entries = extra.entries ++
        if extra.contains recordKey then []
        else [(recordKey, shown (Ambient.after {} operations).current)] := by
  refine ⟨exists_leavesOpen paired, ?_, ?_, rfl, ?_⟩
  · intro stack leavesOpen
    refine ⟨?_, stackAfter_eq leavesOpen, leavesOpen.ne_nil⟩
    rw [Ambient.after_eq_ofStack leavesOpen, Ambient.current_ofStack]
  · rintro earlier rfl
    exact Ambient.exists_after_leave paired
  · intro extra
    exact ⟨_, rfl, OrderedMap.entries_putNew extra recordKey _⟩

/-- A context inside another one, opened for an empty id, and a record that is logged in it. -/
def nestedOperations : List Operation :=
  [.enter (some "outer".toList) 0, .enter (some []) 1, .log .empty]

theorem paired_nestedOperations : Paired (nestedOperations ++ [Operation.leave]) := by
  have counted : ∀ front ∈ (nestedOperations ++ [Operation.leave]).inits,
      front.countP Operation.closes ≤ front.countP Operation.opens := by
    decide
  exact fun front inFront => counted front ((List.mem_inits front _).mpr inFront)

/-- Inside, the minted id is current; after the inner context, the outer one is again. -/
theorem contexts_nest_around_minted_id :
    (∃ passed, (Ambient.after {} nestedOperations).perform (.log .empty) =
        (Ambient.after {} nestedOperations, .passedOn passed) ∧
      passed.entries = [(recordKey, .text (mint 1))]) ∧
    (Ambient.after {} (nestedOperations ++ [Operation.leave])).current = some "outer".toList := by
  have ofInside := contexts_nest nestedOperations paired_nestedOperations.of_append
  have ofOutside := contexts_nest (nestedOperations ++ [Operation.leave]) paired_nestedOperations
  rcases ofInside with ⟨-, -, -, -, logged⟩
  rcases ofOutside with ⟨⟨stack, leavesOpen⟩, held, -⟩
  refine ⟨logged .empty, ?_⟩
  rcases held stack leavesOpen with ⟨current, stack_eq, -⟩
  rw [current, ← stack_eq]
  rfl

end Correlation

end SignOnGate
