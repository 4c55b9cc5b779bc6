import Mathlib.Data.List.Nodup
import SignOnGate.Proofs.OrderedMap
import SignOnGate.Settings

/-!
# The spellings of settings

Settings can be written under the names of their fields, under the classic names of properties, and
as environment variables. What they come to depends on the text of each setting only: not on the
spelling, not on the order of the pairs, and not on variables that are no settings. Reading them
either gives settings, or reports each field that has a problem, and there is at least one.
-/

namespace SignOnGate

namespace Field

/-- Behind any common start, each setting has an environment variable of its own. -/
theorem variableName_injective (start : Text) : Function.Injective (variableName start) := by
  have distinct : (all.map fun field => field.shortName.map Char.toUpper).Nodup := by
    decide
  intro first second same
  exact List.inj_on_of_nodup_map distinct (mem_all first) (mem_all second)
    (List.append_cancel_left same)

end Field

namespace Settings

/-! ## Reading looks at the values only -/

variable {values other : Values}

theorem read_congr (same : ∀ field, values.get? field = other.get? field) :
    read values = read other := by
  have same : values.get? = other.get? := funext same
  have problem : problem? values = problem? other := by
    funext field
    simp only [problem?, same]
  simp only [read, ofValues, problems, same, problem]

theorem mem_problems_iff (field : Field) (problem : Problem) :
    (field, problem) ∈ problems values ↔ problem? values field = some problem := by
  simp [problems]

theorem isNone_problemOf {α : Type} (reading : Except Problem α) :
    (problemOf reading).isNone = reading.isOk := by
  cases reading <;> rfl

theorem isOk_bind {ε α β : Type} {first : Except ε α} {next : α → Except ε β} {rest : Bool}
    (isOk_next : ∀ value, (next value).isOk = rest) :
    (first >>= next).isOk = (first.isOk && rest) := by
  cases first with
  | error fault => rfl
  | ok value => exact isOk_next value

/-- Values stand for settings when no field has a problem. -/
theorem isOk_ofValues (values : Values) :
    (ofValues values).isOk = Field.all.all fun field => (problem? values field).isNone := by
  have readings : (ofValues values).isOk = _ :=
    isOk_bind fun loginUrl => isOk_bind fun renew => isOk_bind fun gateway =>
    isOk_bind fun exclusionRule => isOk_bind fun exclusionType => isOk_bind fun resolverClass =>
    isOk_bind fun deliveryClass => isOk_bind fun protocol => isOk_bind fun service =>
    isOk_bind fun serverName => rfl
  rw [readings]
  simp only [Field.all, List.all_cons, List.all_nil, problem?, isNone_problemOf]

theorem isOk_ofValues_iff (values : Values) :
    (ofValues values).isOk = true ↔ problems values = [] := by
  rw [isOk_ofValues, List.all_eq_true, problems, List.filterMap_eq_nil_iff]
  simp

/-- Reading fails with all problems, and only if there are some. -/
theorem read_eq_error_iff {found : List (Field × Problem)} :
    read values = .error found ↔ found = problems values ∧ found ≠ [] := by
  have isOk := isOk_ofValues_iff values
  rw [read]
  cases reading : ofValues values with
  | ok settings =>
      have none_found : problems values = [] := isOk.mp (by rw [reading]; rfl)
      simp [none_found]
  | error first =>
      have some_found : problems values ≠ [] := by
        rw [reading] at isOk
        exact mt isOk.mpr nofun
      simp only [Except.error.injEq]
      constructor
      · rintro rfl
        exact ⟨rfl, some_found⟩
      · rintro ⟨rfl, -⟩
        rfl

/-! ## Texts for some of the settings -/

/-- Texts for some of the settings. -/
abbrev Assignment := Field → Option Text

/-- The pairs in which texts are written, with a spelling for each setting. -/
def written (spelling : Field → Text) (assignment : Assignment) : List (Text × Text) :=
  Field.all.filterMap fun field => (assignment field).map (spelling field, ·)

/-- Pairs of texts as properties. -/
def asProperties (pairs : List (Text × Text)) : List (Text × Value) :=
  pairs.map fun pair => (pair.1, .text pair.2)

/-- The texts as values of their fields. -/
def valuesOf (assignment : Assignment) : Values :=
  .ofPairs (Field.all.filterMap fun field => (assignment field).map (field, .text ·))

variable {assignment : Assignment} {spelling : Field → Text}

theorem mem_written_iff {name text : Text} :
    (name, text) ∈ written spelling assignment ↔
      ∃ field, spelling field = name ∧ assignment field = some text := by
  simp [written, and_comm]

theorem get?_valuesOf (assignment : Assignment) (field : Field) :
    (valuesOf assignment).get? field = (assignment field).map .text :=
  OrderedMap.get?_ofPairs_eq fun value => by simp

/-- A setting is found in an environment by the name of its variable. -/
theorem get?_valuesOfEnvironment (start : Text) (environment : List (Text × Text)) (field : Field) :
    (valuesOfEnvironment start environment).get? field =
      ((OrderedMap.ofPairs environment).get? (field.variableName start)).map .text :=
  get?_valuesOf (fun field => (OrderedMap.ofPairs environment).get? (field.variableName start))
    field

/-- Variables that are no settings do not matter, nor does the order of those that are. -/
theorem get?_valuesOfEnvironment_of_written {start : Text}
    {environment further : List (Text × Text)}
    (inEnvironment : environment.Perm (written (Field.variableName start) assignment ++ further))
    (foreign : ∀ entry ∈ further, ∀ field : Field, entry.1 ≠ field.variableName start)
    (field : Field) :
    (valuesOfEnvironment start environment).get? field = (valuesOf assignment).get? field := by
  rw [get?_valuesOfEnvironment, get?_valuesOf]
  congr 1
  refine OrderedMap.get?_ofPairs_eq fun text => ?_
  rw [inEnvironment.mem_iff, List.mem_append, mem_written_iff]
  constructor
  · rintro (⟨other, sameName, assigned⟩ | isFurther)
    · cases Field.variableName_injective start sameName
      exact assigned
    · exact absurd rfl (foreign _ isFurther field)
  · exact fun assigned => Or.inl ⟨field, rfl, assigned⟩

/-- Any spelling that is known of a property may be used, in any order. -/
theorem get?_valuesOfProperties_of_written {pairs : List (Text × Text)}
    (known : ∀ field, Field.ofProperty? (spelling field) = some field)
    (inPairs : pairs.Perm (written spelling assignment)) (field : Field) :
    (valuesOfProperties (asProperties pairs)).get? field = (valuesOf assignment).get? field := by
  have mem_iff (name : Text) (value : Value) : (name, value) ∈ asProperties pairs ↔
      ∃ field, spelling field = name ∧ (assignment field).map .text = some value := by
    rw [asProperties, List.mem_map]
    constructor
    · rintro ⟨⟨written, text⟩, pair_mem, ⟨⟩⟩
      rcases mem_written_iff.mp (inPairs.mem_iff.mp pair_mem) with ⟨field, rfl, assigned⟩
      exact ⟨field, rfl, by rw [assigned, Option.map_some]⟩
    · rintro ⟨field, rfl, shown⟩
      rcases Option.map_eq_some_iff.mp shown with ⟨text, assigned, rfl⟩
      exact ⟨(spelling field, text),
        inPairs.mem_iff.mpr (mem_written_iff.mpr ⟨field, rfl, assigned⟩),
        rfl⟩
  have single : ∀ name value other, (name, value) ∈ asProperties pairs →
      (name, other) ∈ asProperties pairs → value = other := by
    intro name value other first second
    rcases (mem_iff name value).mp first with ⟨field, rfl, assigned⟩
    rcases (mem_iff _ other).mp second with ⟨field', sameName, assigned'⟩
    have sameField : some field' = some field := by
      rw [← known, ← known, sameName]
    cases sameField
    exact Option.some.inj (assigned.symm.trans assigned')
  rw [get?_valuesOf]
  refine OrderedMap.get?_ofPairs_eq fun value => ?_
  simp only [List.mem_filterMap, OrderedMap.mem_entries_ofPairs_iff single, Prod.exists, mem_iff,
    Option.map_eq_some_iff, Prod.mk.injEq]
  constructor
  · rintro ⟨name, other, ⟨field', rfl, text, assigned, rfl⟩, found, foundIt, rfl, rfl⟩
    rw [known, Option.some.injEq] at foundIt
    subst foundIt
    exact ⟨text, assigned, rfl⟩
  · rintro ⟨text, assigned, rfl⟩
    exact ⟨spelling field, .text text, ⟨field, rfl, text, assigned, rfl⟩, field, known field, rfl,
      rfl⟩

/-- A login URL between blanks, a word for a flag, a small protocol name, and a blank rule. -/
def looseAssignment : Assignment
  | .loginUrl => some " https://sso.example.org/cas/login ".toList
  | .gateway => some "True".toList
  | .exclusionRule => some " ".toList
  | .protocol => some "saml11".toList
  | _ => none

/-- No login URL, and a word that is no flag. -/
def brokenAssignment : Assignment
  | .renew => some "maybe".toList
  | _ => none

end Settings

end SignOnGate
