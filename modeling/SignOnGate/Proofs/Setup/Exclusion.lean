import SignOnGate.Proofs.Plugin.Catalogue
import SignOnGate.Setup

/-!
# Exclusion rules that fail without being refused

Setting up an exclusion rule comes to a rule or to a refusal of the configuration, but for the cases
that `Unreported` lists: a pattern fails in a way that is no fault of its notation, a path begins
with a dot, or a path names the class of gates. Where a pattern is asked for by its kind, each such
fault is passed on; where it is asked for by the path of its class, complaints of a value become
refusals.
-/

namespace SignOnGate

/-- Whether something fails by a given fault can be told although its value cannot be compared. -/
instance decidableFailure {ε α : Type} [DecidableEq ε] (value : Except ε α) (fault : ε) :
    Decidable (value = .error fault) :=
  match value with
  | .error other => decidable_of_iff (other = fault) (by simp)
  | .ok _ => isFalse nofun

/-- The faults of a pattern that is more than the machinery of patterns can bear. -/
inductive Pattern.Fault.Overtaxing : Pattern.Fault → Prop where
  | repeats : Overtaxing .repeatTooLarge
  | character : Overtaxing .characterTooLarge
  | depth : Overtaxing .tooDeep
  | lookBehind : Overtaxing .lookBehindTooFar

namespace Exclusion

/-- What the fault of a pattern becomes when a rule is set up. -/
def patternFault (source : Text) : Pattern.Fault → SetupFault
  | .malformed cause position => .refused (.badPattern source cause position)
  | .repeatTooLarge => .tooLarge
  | .characterTooLarge => .tooLarge
  | .tooDeep => .nestedTooDeep
  | .lookBehindTooFar => .lookBehindTooFar
  | fault => .badValue (fault.message source)

variable {source : Text} {cause : Pattern.Fault}

theorem ofPattern_of_error (fails : Pattern.compile source = .error cause) :
    ofPattern source = .error (patternFault source cause) := by
  rw [ofPattern, fails]
  cases cause <;> rfl

/-- A rule that is a pattern fails as the pattern does. -/
theorem ofPattern_eq_error {fault : SetupFault} (failed : ofPattern source = .error fault) :
    ∃ cause, Pattern.compile source = .error cause ∧ fault = patternFault source cause := by
  cases compiled : Pattern.compile source with
  | ok pattern =>
      rw [ofPattern, compiled] at failed
      cases failed
  | error cause =>
      rw [ofPattern_of_error compiled] at failed
      cases failed
      exact ⟨cause, rfl, rfl⟩

theorem patternFault_eq_refused_iff :
    (∃ error, patternFault source cause = .refused error) ↔
      ∃ reason position, cause = .malformed reason position := by
  cases cause <;> simp [patternFault]

/-- The fault of a pattern is an orderly one unless the pattern is overtaxing. -/
theorem orderly_patternFault_iff :
    (patternFault source cause).Orderly ↔ ¬cause.Overtaxing := by
  constructor
  · intro orderly overtaxing
    cases overtaxing <;> cases orderly
  · intro notOvertaxing
    cases cause with
    | malformed reason position => exact .refused _
    | repeatTooLarge => exact absurd .repeats notOvertaxing
    | characterTooLarge => exact absurd .character notOvertaxing
    | numberTooLong digits => exact .badValue _
    | alphabetClash => exact .badValue _
    | tooDeep => exact absurd .depth notOvertaxing
    | lookBehindTooFar => exact absurd .lookBehind notOvertaxing

/-- Of the kinds of rules, only the kind of patterns can fail. -/
theorem of_ofKind? {kind : Text} {make : Text → Except SetupFault Exclusion}
    (known : ofKind? kind = some make) :
    (Text.keyword kind = "REGEX".toList ∧ make = ofPattern) ∨
      ∀ text, ∃ exclusion, make text = .ok exclusion := by
  simp only [ofKind?] at known
  split at known
  · cases known
    exact Or.inr fun text => ⟨_, rfl⟩
  · split at known
    · rename_i isPattern
      cases known
      exact Or.inl ⟨isPattern, rfl⟩
    · split at known
      · cases known
        exact Or.inr fun text => ⟨_, rfl⟩
      · cases known

theorem ofKind?_of_pattern {kind : Text} (isPattern : Text.keyword kind = "REGEX".toList) :
    ofKind? kind = some ofPattern := by
  have notContains : Text.keyword kind ≠ "CONTAINS".toList := by
    rw [isPattern]
    decide
  simp only [ofKind?, if_neg notContains, if_pos isPattern]

end Exclusion

namespace Setup

open Plugin

/-- The word or the path that the type of a rule comes to. -/
def ruleName (type : Option Text) : Text :=
  Text.strip (match type with
    | none | some [] => Settings.standardExclusionType
    | some name => name)

/-- The ways in which setting up a rule fails without a refusal, each with its fault. -/
inductive Unreported (catalogue : Catalogue) (type : Option Text) (rule : Text) :
    SetupFault → Prop where
  | pattern (isPattern : Text.keyword (ruleName type) = "REGEX".toList) (cause : Pattern.Fault)
      (fails : Pattern.compile rule = .error cause)
      (notMalformed : ∀ reason position, cause ≠ .malformed reason position) :
      Unreported catalogue type rule (Exclusion.patternFault rule cause)
  | relativePath (noKind : Exclusion.ofKind? (ruleName type) = none) (rest member : Text)
      (cut : Catalogue.cut? (ruleName type) = some ('.' :: rest, member)) :
      Unreported catalogue type rule .relativePath
  | patternClass (noKind : Exclusion.ofKind? (ruleName type) = none) (home : Text)
      (loaded : catalogue.load (ruleName type) = .ok (Standard.patternClass home))
      (cause : Pattern.Fault) (fails : Pattern.compile rule = .error cause)
      (overtaxing : cause.Overtaxing) :
      Unreported catalogue type rule (Exclusion.patternFault rule cause)
  | gateClass (noKind : Exclusion.ofKind? (ruleName type) = none) (home : Text)
      (loaded : catalogue.load (ruleName type) = .ok (Standard.gateClass home)) :
      Unreported catalogue type rule (.escaped .missingOperation)

variable {catalogue : Catalogue} {type : Option Text} {path rule : Text} {fault : SetupFault}
  {pluginClass : PluginClass}

/-! ## Rules by kind -/

theorem exclusion_eq (catalogue : Catalogue) (type : Option Text) (rule : Text) :
    exclusion catalogue type rule =
      match Exclusion.ofKind? (ruleName type) with
      | some make => make rule
      | none => exclusionOfClass catalogue (ruleName type) rule := rfl

theorem exclusion_of_kind {make : Text → Except SetupFault Exclusion}
    (known : Exclusion.ofKind? (ruleName type) = some make) :
    exclusion catalogue type rule = make rule := by
  rw [exclusion_eq, known]

theorem exclusion_of_path (noKind : Exclusion.ofKind? (ruleName type) = none) :
    exclusion catalogue type rule = exclusionOfClass catalogue (ruleName type) rule := by
  rw [exclusion_eq, noKind]

/-! ## Rules by class -/

theorem exclusionOfClass_of_orderly (loaded : catalogue.load path = .ok pluginClass)
    (failed : pluginClass.new (some rule) = .error fault) (orderly : fault.Orderly) :
    ∃ error, exclusionOfClass catalogue path rule = .error (.refused error) := by
  rw [exclusionOfClass, loaded]
  cases orderly with
  | refused error => exact ⟨error, by simp only [failed]⟩
  | arguments reason => exact ⟨.notBuilt none path reason, by simp only [failed]⟩
  | badValue reason => exact ⟨.notBuilt none path reason, by simp only [failed]⟩

/-- A class that fails out of order passes its fault on. -/
theorem exclusionOfClass_of_not_orderly (loaded : catalogue.load path = .ok pluginClass)
    (failed : pluginClass.new (some rule) = .error fault) (notOrderly : ¬fault.Orderly) :
    exclusionOfClass catalogue path rule = .error fault := by
  rw [exclusionOfClass, loaded]
  simp only [failed]
  split
  · rename_i reason same
    cases same
    exact absurd (.arguments reason) notOrderly
  · rename_i reason same
    cases same
    exact absurd (.badValue reason) notOrderly
  · rename_i same
    cases same
    rfl
  · rename_i same
    cases same

/-- A class that is built serves as a rule, or is refused. -/
theorem refused_of_built {plugin : Plugin} (loaded : catalogue.load path = .ok pluginClass)
    (built : pluginClass.new (some rule) = .ok plugin)
    (failed : exclusionOfClass catalogue path rule = .error fault) :
    ∃ error, fault = .refused error := by
  rw [exclusionOfClass, loaded] at failed
  simp only [built] at failed
  split at failed
  · cases failed
  · cases failed
    exact ⟨_, rfl⟩

theorem new_patternClass_eq_error {home : Text}
    (failed : (Standard.patternClass home).new (some rule) = .error fault) :
    ∃ cause, Pattern.compile rule = .error cause ∧ fault = Exclusion.patternFault rule cause := by
  rw [Standard.new_patternClass] at failed
  cases made : Exclusion.ofPattern rule with
  | ok exclusion =>
      rw [made] at failed
      cases failed
  | error other =>
      rw [made] at failed
      cases failed
      exact Exclusion.ofPattern_eq_error made

theorem new_patternClass_of_error {home : Text} {cause : Pattern.Fault}
    (fails : Pattern.compile rule = .error cause) :
    (Standard.patternClass home).new (some rule) = .error (Exclusion.patternFault rule cause) := by
  rw [Standard.new_patternClass, Exclusion.ofPattern_of_error fails]
  rfl

/-- A class of a tame catalogue fails by a refusal, or in one of the ways that go unreported. -/
theorem refused_or_unreported_of_class
    (tame : ∀ owner ∈ catalogue, ∀ pluginClass ∈ owner.classes, Standard.Tame pluginClass)
    (noKind : Exclusion.ofKind? (ruleName type) = none)
    (failed : exclusionOfClass catalogue (ruleName type) rule = .error fault) :
    (∃ error, fault = .refused error) ∨ Unreported catalogue type rule fault := by
  cases loaded : catalogue.load (ruleName type) with
  | error other =>
      rw [exclusionOfClass, loaded] at failed
      cases failed
      rcases Catalogue.load_eq_error loaded with refused | ⟨rfl, rest, member, cut⟩
      · exact Or.inl refused
      · exact Or.inr (.relativePath noKind rest member cut)
  | ok pluginClass =>
      cases built : pluginClass.new (some rule) with
      | ok plugin => exact Or.inl (refused_of_built loaded built failed)
      | error other =>
          by_cases orderly : other.Orderly
          · rcases exclusionOfClass_of_orderly loaded built orderly with ⟨error, refused⟩
            rw [refused] at failed
            cases failed
            exact Or.inl ⟨error, rfl⟩
          · rw [exclusionOfClass_of_not_orderly loaded built orderly] at failed
            cases failed
            rcases Catalogue.mem_of_load loaded with ⟨owner, owned, member⟩
            rcases tame owner owned pluginClass member with isOrderly | ⟨home, rfl⟩ | ⟨home, rfl⟩
            · exact absurd (isOrderly rule _ built) orderly
            · rcases new_patternClass_eq_error built with ⟨cause, fails, rfl⟩
              rw [Exclusion.orderly_patternFault_iff, not_not] at orderly
              exact Or.inr (.patternClass noKind home loaded cause fails orderly)
            · rw [Standard.new_gateClass] at built
              cases built
              exact Or.inr (.gateClass noKind home loaded)

/-- In an unreported way, setting up the rule fails, and by no refusal. -/
theorem Unreported.exclusion_eq (unreported : Unreported catalogue type rule fault) :
    exclusion catalogue type rule = .error fault ∧ ∀ error, fault ≠ .refused error := by
  cases unreported with
  | pattern isPattern cause fails notMalformed =>
      rw [exclusion_of_kind (Exclusion.ofKind?_of_pattern isPattern)]
      refine ⟨Exclusion.ofPattern_of_error fails, ?_⟩
      intro error refused
      rcases Exclusion.patternFault_eq_refused_iff.mp ⟨error, refused⟩ with
        ⟨reason, position, malformed⟩
      exact notMalformed reason position malformed
  | relativePath noKind rest member cut =>
      rw [exclusion_of_path noKind, exclusionOfClass, Catalogue.load_of_dot cut]
      exact ⟨rfl, nofun⟩
  | patternClass noKind home loaded cause fails overtaxing =>
      have notOrderly : ¬(Exclusion.patternFault rule cause).Orderly := by
        rw [Exclusion.orderly_patternFault_iff, not_not]
        exact overtaxing
      rw [exclusion_of_path noKind, exclusionOfClass_of_not_orderly loaded
        (new_patternClass_of_error fails) notOrderly]
      refine ⟨rfl, ?_⟩
      intro error refused
      rw [refused] at notOrderly
      exact notOrderly (.refused error)
  | gateClass noKind home loaded =>
      rw [exclusion_of_path noKind, exclusionOfClass_of_not_orderly loaded
        (Standard.new_gateClass home rule) nofun]
      exact ⟨rfl, nofun⟩

/--
Setting up a rule fails without a refusal exactly in the unreported ways. The classes are those of
the gate and the basic ones, and any others that fail in an orderly way.
-/
theorem rule_fails_without_refusal_iff (package : Text) (others : Catalogue)
    (orderly : ∀ owner ∈ others, ∀ pluginClass ∈ owner.classes, pluginClass.Orderly)
    (type : Option Text) (rule : Text) (fault : SetupFault) :
    (exclusion (others ++ Standard.catalogue package) type rule = .error fault ∧
        ∀ error, fault ≠ .refused error) ↔
      Unreported (others ++ Standard.catalogue package) type rule fault := by
  refine ⟨?_, Unreported.exclusion_eq⟩
  rintro ⟨failed, notRefused⟩
  cases kind : Exclusion.ofKind? (ruleName type) with
  | some make =>
      rw [exclusion_of_kind kind] at failed
      rcases Exclusion.of_ofKind? kind with ⟨isPattern, rfl⟩ | succeeds
      · rcases Exclusion.ofPattern_eq_error failed with ⟨cause, fails, rfl⟩
        refine .pattern isPattern cause fails ?_
        rintro reason position rfl
        exact notRefused _ rfl
      · rcases succeeds rule with ⟨exclusion, made⟩
        rw [made] at failed
        cases failed
  | none =>
      rw [exclusion_of_path kind] at failed
      have tame : ∀ owner ∈ others ++ Standard.catalogue package,
          ∀ pluginClass ∈ owner.classes, Standard.Tame pluginClass := by
        intro owner owned pluginClass member
        rcases List.mem_append.mp owned with other | standard
        · exact .orderly (orderly owner other pluginClass member)
        · exact Standard.tame_of_mem_catalogue standard member
      rcases refused_or_unreported_of_class tame kind failed with ⟨error, refused⟩ | unreported
      · exact absurd refused (notRefused error)
      · exact unreported

/-- A pattern whose count of repetitions is too large. -/
def hugeRepetition : Text := "a{4294967295}".toList

theorem compile_hugeRepetition : Pattern.compile hugeRepetition = .error .repeatTooLarge := by
  decide +kernel

/-- One rule for each of the unreported ways. -/
theorem rules_fail_without_refusal :
    (exclusion (Standard.catalogue "gate".toList) (some "regex".toList) hugeRepetition =
        .error .tooLarge ∧ ∀ error, SetupFault.tooLarge ≠ .refused error) ∧
    (exclusion (Standard.catalogue "gate".toList)
        (some "gate.engines.url_matcher:RegexUrlPatternMatcher".toList) hugeRepetition =
        .error .tooLarge ∧ ∀ error, SetupFault.tooLarge ≠ .refused error) ∧
    (exclusion (Standard.catalogue "gate".toList) (some ".matchers.Prefix".toList) [] =
        .error .relativePath ∧ ∀ error, SetupFault.relativePath ≠ .refused error) ∧
    exclusion (Standard.catalogue "gate".toList)
      (some "gate.engines.gate.AuthenticationGate".toList)
        [] = .error (.escaped .missingOperation) ∧
      ∀ error, SetupFault.escaped .missingOperation ≠ .refused error := by
  have unreported (type : Text) (rule : Text) (fault : SetupFault) :=
    (rule_fails_without_refusal_iff "gate".toList [] nofun (some type) rule fault).mpr
  refine ⟨?_, ?_, ?_, ?_⟩
  · exact unreported _ _ _ (.pattern rfl .repeatTooLarge compile_hugeRepetition nofun)
  · exact unreported _ _ _ (.patternClass rfl "gate.engines.url_matcher".toList rfl .repeatTooLarge
      compile_hugeRepetition .repeats)
  · exact unreported _ _ _ (.relativePath rfl "matchers".toList "Prefix".toList rfl)
  · exact unreported _ _ _ (.gateClass rfl "gate.engines.gate".toList rfl)

end Setup

end SignOnGate
