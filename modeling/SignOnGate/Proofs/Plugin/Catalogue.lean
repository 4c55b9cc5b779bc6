import Mathlib.Tactic.Common
import SignOnGate.Plugin.Standard

/-!
# How classes of the catalogue fail

A path fails to name a class by a refusal, unless it begins with a dot. A class that is named in
place of a kind of rule is built from the text of the rule. It fails in an orderly way when it
complains of its arguments or of their value, or refuses them as a configuration. Two of the
standard classes do not: the class of patterns passes on what the notation of a pattern cannot tell,
and the class of gates takes any text for a configuration.
-/

namespace SignOnGate

/-- The faults of a class that show as refusals of the configuration. -/
inductive SetupFault.Orderly : SetupFault → Prop where
  | refused (error : ConfigurationError) : Orderly (.refused error)
  | arguments (message : Text) : Orderly (.arguments message)
  | badValue (message : Text) : Orderly (.badValue message)

namespace PluginClass

/-- Building a class from a text fails in an orderly way, if it fails. -/
def Orderly (pluginClass : PluginClass) : Prop :=
  ∀ text fault, pluginClass.new (some text) = .error fault → fault.Orderly

variable {pluginClass : PluginClass}

theorem orderly_of_build
    (builds : ∀ text fault, pluginClass.build (some text) = .error fault → fault.Orderly) :
    pluginClass.Orderly := by
  intro text fault failed
  rw [new] at failed
  split at failed
  · cases failed
    exact .arguments _
  · exact builds text fault failed

end PluginClass

namespace Plugin

namespace Catalogue

variable {catalogue : Catalogue} {path : Text}

/-- Names lead down to a module of the catalogue, or to where they began. -/
theorem mem_of_locateBelow {parent owner : Module} {names : List Text}
    (located : catalogue.locateBelow parent names = .ok owner) :
    owner = parent ∨ owner ∈ catalogue := by
  induction names generalizing parent with
  | nil =>
      cases located
      exact Or.inl rfl
  | cons name rest ih =>
      rw [locateBelow] at located
      split at located
      · cases located
      · rename_i found found_eq
        rcases ih located with rfl | member
        · exact Or.inr (List.mem_of_find?_eq_some found_eq)
        · exact Or.inr member

/-- A class that is loaded is in some module of the catalogue. -/
theorem mem_of_load {pluginClass : PluginClass} (loaded : catalogue.load path = .ok pluginClass) :
    ∃ owner ∈ catalogue, pluginClass ∈ owner.classes := by
  rw [load] at loaded
  split at loaded
  · cases loaded
  · split at loaded
    · cases loaded
    · split at loaded
      · cases loaded
      · rename_i owner located
        split at loaded
        · rename_i found found_eq
          cases loaded
          have member := List.mem_of_find?_eq_some found_eq
          rcases mem_of_locateBelow located with rfl | inCatalogue
          · cases member
          · exact ⟨owner, inCatalogue, member⟩
        · split at loaded <;> cases loaded

/-- A look-up fails by a refusal, or by a path that begins with a dot. -/
theorem load_eq_error {fault : SetupFault} (failed : catalogue.load path = .error fault) :
    (∃ error, fault = .refused error) ∨ fault = .relativePath ∧
      ∃ rest member, cut? path = some ('.' :: rest, member) := by
  rw [load] at failed
  split at failed
  · cases failed
    exact Or.inl ⟨_, rfl⟩
  · rename_i moduleName member cut_eq
    split at failed
    · rename_i isDot
      cases failed
      rcases List.head?_eq_some_iff.mp isDot with ⟨rest, rfl⟩
      exact Or.inr ⟨rfl, rest, member, cut_eq⟩
    · left
      split at failed
      · cases failed
        exact ⟨_, rfl⟩
      · split at failed
        · cases failed
        · split at failed <;> cases failed <;> exact ⟨_, rfl⟩

theorem load_of_dot {rest member : Text} (cut : cut? path = some ('.' :: rest, member)) :
    catalogue.load path = .error .relativePath := by
  simp [load, cut]

end Catalogue

namespace Standard

/-- The class of patterns. -/
def patternClass : Draft :=
  rule "RegexUrlPatternMatcher" Exclusion.ofPattern

/-- The class of gates, which looks into its argument as if it were a configuration. -/
def gateClass : Draft :=
  draft "AuthenticationGate" (constructor "AuthenticationGate" ["config"] 0) fun _ =>
    .error (.escaped .missingOperation)

/-- A class is orderly, or it is one of the two that are not. -/
inductive Tame (pluginClass : PluginClass) : Prop where
  | orderly (orderly : pluginClass.Orderly)
  | ofPatterns (home : Text) (same : pluginClass = patternClass home)
  | ofGates (home : Text) (same : pluginClass = gateClass home)

variable {name : String} {signature : Signature} {home package : Text}

/-! ## Classes one by one -/

theorem new_patternClass (home text : Text) :
    (patternClass home).new (some text) = (Exclusion.ofPattern text).map Plugin.ofExclusion := rfl

theorem new_gateClass (home text : Text) :
    (gateClass home).new (some text) = .error (.escaped .missingOperation) := rfl

theorem tame_draft {build : Option Text → Except SetupFault Plugin}
    (builds : ∀ text fault, build (some text) = .error fault → fault.Orderly) :
    Tame (draft name signature build home) :=
  .orderly (PluginClass.orderly_of_build builds)

theorem tame_inert : Tame (inert name signature home) :=
  tame_draft nofun

theorem tame_record {required : List String} {optional : Nat} :
    Tame (record name required optional home) :=
  tame_inert

theorem tame_resolver {resolver : Gateway.Resolver} :
    Tame (draft name signature (fun _ => .ok (Plugin.ofResolver resolver)) home) :=
  tame_draft nofun

theorem tame_strategy {delivery : Delivery} : Tame (strategy name delivery home) :=
  tame_draft nofun

theorem tame_rule {make : Text → Exclusion} :
    Tame (rule name (fun text => .ok (make text)) home) :=
  tame_draft nofun

theorem tame_enumeration {values : List Text} : Tame (enumeration name values home) := by
  apply tame_draft
  intro text fault failed
  simp only at failed
  split at failed
  · cases failed
  · cases failed
    exact .badValue _

theorem tame_refusing {error : ConfigurationError} :
    Tame (draft name signature (fun _ => .error (.refused error)) home) := by
  apply tame_draft
  rintro text fault ⟨⟩
  exact .refused error

/-- A class that takes no arguments complains of the text, whatever else it would do without. -/
theorem tame_withoutArguments {callee : Text} {build : Option Text → Except SetupFault Plugin} :
    Tame (draft name (.listed callee [] 0) build home) := by
  refine .orderly ?_
  rintro text fault ⟨⟩
  exact .arguments _

/-! ## The whole catalogue -/

/-- The modules of the gate that define classes. -/
def allHomes : List Home :=
  coreHomes ++ engineHomes ++ [settingsHome] ++ [middlewareHome]

/-- The classes that a module of the gate defines are tame. -/
theorem tame_of_mem_home {source : Home} (listed : source ∈ allHomes) {member : Draft}
    (defined : member ∈ source.classes) : Tame (member home) := by
  have tame_patterns : Tame (rule "RegexUrlPatternMatcher" Exclusion.ofPattern home) :=
    .ofPatterns home rfl
  have tame_gates : Tame (draft "AuthenticationGate" (constructor "AuthenticationGate" ["config"] 0)
      (fun _ => .error (.escaped .missingOperation)) home) :=
    .ofGates home rfl
  have all : ∀ source ∈ allHomes, ∀ member ∈ source.classes, Tame (member home) := by
    simp [allHomes, coreHomes, engineHomes, settingsHome, middlewareHome, tame_inert, tame_record,
      tame_enumeration, tame_rule, tame_strategy, tame_resolver, tame_refusing,
      tame_withoutArguments, tame_patterns, tame_gates]
  exact all source listed member defined

theorem tame_of_mem_classesOfAll {homes : List Home} (listed : homes ⊆ allHomes)
    {pluginClass : PluginClass} (member : pluginClass ∈ classesOfAll package homes) :
    Tame pluginClass := by
  rcases List.mem_flatMap.mp member with ⟨source, inHomes, ofSource⟩
  rcases List.mem_map.mp ofSource with ⟨defined, inSource, rfl⟩
  exact tame_of_mem_home (listed inHomes) inSource

theorem tame_of_mem_homeModule {source : Home} (listed : source ∈ allHomes)
    {pluginClass : PluginClass}
    (member : pluginClass ∈ (homeModule package (classesOfAll package allHomes) source).classes) :
    Tame pluginClass := by
  rcases List.mem_append.mp member with own | borrowed
  · rcases List.mem_map.mp own with ⟨defined, inSource, rfl⟩
    exact tame_of_mem_home listed inSource
  · exact tame_of_mem_classesOfAll (List.Subset.refl _) (List.mem_filter.mp borrowed).1

/-- The basic classes are tame. -/
theorem tame_of_mem_basicModule {pluginClass : PluginClass}
    (member : pluginClass ∈ basicModule.classes) : Tame pluginClass := by
  rcases List.mem_map.mp member with ⟨defined, listed, rfl⟩
  simp only [List.mem_cons, List.not_mem_nil, or_false] at listed
  rcases listed with rfl | rfl | rfl
  · exact tame_inert
  · apply tame_draft
    intro text fault failed
    split at failed
    · cases failed
    · cases failed
      exact .badValue _
  · exact tame_inert

/-- Every class of the gate, and every basic class, is orderly or one of the two that are not. -/
theorem tame_of_mem_catalogue {owner : Module} (owned : owner ∈ catalogue package)
    {pluginClass : PluginClass} (member : pluginClass ∈ owner.classes) : Tame pluginClass := by
  have inner : coreHomes ++ engineHomes ++ [settingsHome] ⊆ allHomes :=
    List.subset_append_left _ _
  have engines : engineHomes ⊆ allHomes := fun source listed => by simp [allHomes, listed]
  have core : coreHomes ⊆ allHomes := fun source listed => by simp [allHomes, listed]
  have front : [middlewareHome] ⊆ allHomes := List.subset_append_right _ _
  rcases List.mem_append.mp owned with package | home
  · simp only [List.mem_cons, List.not_mem_nil, or_false] at package
    rcases package with rfl | rfl | rfl | rfl | rfl
    · exact tame_of_mem_classesOfAll inner member
    · exact tame_of_mem_classesOfAll core member
    · exact tame_of_mem_classesOfAll engines member
    · apply tame_of_mem_classesOfAll front
      exact List.mem_flatMap.mpr ⟨_, List.mem_singleton_self _, member⟩
    · exact tame_of_mem_basicModule member
  · rcases List.mem_map.mp home with ⟨source, listed, rfl⟩
    exact tame_of_mem_homeModule listed member

end Standard

end Plugin

end SignOnGate
