import Mathlib.Tactic.Common
import SignOnGate.OrderedMap

/-!
# Facts about insertion-ordered maps

The laws of `put` and `erase` for an arbitrary key, and the same laws read off the list of keys.
-/

namespace SignOnGate

namespace OrderedMap

universe u v

variable {κ : Type u} {α : Type v}

theorem isEmpty_eq_true_iff (map : OrderedMap κ α) : map.isEmpty = true ↔ map.keys = [] := by
  simp [isEmpty, keys]

variable [DecidableEq κ]

theorem get?_put (map : OrderedMap κ α) (key other : κ) (value : α) :
    (map.put key value).get? other = if other = key then some value else map.get? other := by
  by_cases same : other = key
  · subst same
    simp
  · simp [same, get?_put_of_ne map value same]

theorem get?_erase (map : OrderedMap κ α) (key other : κ) :
    (map.erase key).get? other = if other = key then none else map.get? other := by
  by_cases same : other = key
  · subst same
    simp
  · simp [same, get?_erase_of_ne map same]

/-- A key has no value exactly if it is not among the keys. -/
theorem get?_eq_none_iff (map : OrderedMap κ α) (key : κ) :
    map.get? key = none ↔ key ∉ map.keys := by
  obtain ⟨entries⟩ := map
  simp only [get?, keys]
  induction entries with
  | nil => simp [find]
  | cons entry rest ih =>
      by_cases same : entry.1 = key
      · simp [find, same]
      · simp only [find, same, if_false, ih, List.map_cons, List.mem_cons, Ne.symm same, false_or]

theorem mem_keys_iff (map : OrderedMap κ α) (key : κ) :
    key ∈ map.keys ↔ ∃ value, map.get? key = some value := by
  rw [← Option.ne_none_iff_exists', ne_eq, get?_eq_none_iff, not_not]

theorem contains_eq_true_iff (map : OrderedMap κ α) (key : κ) :
    map.contains key = true ↔ key ∈ map.keys := by
  rw [contains, Option.isSome_iff_exists, mem_keys_iff]

theorem mem_keys_put (map : OrderedMap κ α) (key other : κ) (value : α) :
    other ∈ (map.put key value).keys ↔ other = key ∨ other ∈ map.keys := by
  simp only [mem_keys_iff, get?_put]
  by_cases same : other = key <;> simp [same]

theorem mem_keys_erase (map : OrderedMap κ α) (key other : κ) :
    other ∈ (map.erase key).keys ↔ other ≠ key ∧ other ∈ map.keys := by
  simp only [mem_keys_iff, get?_erase]
  by_cases same : other = key <;> simp [same]

/-! ## Maps made of pairs -/

theorem get?_putNew (map : OrderedMap κ α) (key other : κ) (value : α) :
    (map.putNew key value).get? other =
      (map.get? other).or (if other = key then some value else none) := by
  rw [putNew, contains]
  by_cases same : other = key
  · subst same
    cases found : map.get? other <;> simp [found]
  · split <;> simp [same, get?_put_of_ne]

/-- A new key comes behind the entries that are there already. -/
theorem entries_putNew (map : OrderedMap κ α) (key : κ) (value : α) :
    (map.putNew key value).entries =
      map.entries ++ if map.contains key then [] else [(key, value)] := by
  have put : key ∉ map.keys → (map.put key value).entries = map.entries ++ [(key, value)] := by
    obtain ⟨entries⟩ := map
    simp only [keys, OrderedMap.put]
    induction entries with
    | nil => exact fun _ => rfl
    | cons entry rest ih =>
        intro missing
        rw [List.map_cons, List.mem_cons, not_or] at missing
        rw [putEntry, if_neg (Ne.symm missing.1), ih missing.2, List.cons_append]
  rw [putNew]
  by_cases present : map.contains key = true
  · rw [if_pos present, if_pos present, List.append_nil]
  · rw [if_neg present, if_neg present, put (mt (contains_eq_true_iff map key).mpr present)]

/-- Of several pairs with a key the first one stays. -/
theorem get?_ofFirst (pairs : List (κ × α)) (key : κ) :
    (ofFirst pairs).get? key = (pairs.find? (·.1 = key)).map Prod.snd := by
  have put (map : OrderedMap κ α) :
      (pairs.foldl (fun map pair => map.putNew pair.1 pair.2) map).get? key =
        (map.get? key).or ((pairs.find? (·.1 = key)).map Prod.snd) := by
    induction pairs generalizing map with
    | nil => simp
    | cons pair rest ih =>
        rw [List.foldl_cons, ih, get?_putNew, Option.or_assoc]
        by_cases same : pair.1 = key
        · simp [same]
        · simp [same, Ne.symm same]
  rw [ofFirst, put, get?_empty, Option.none_or]

/-- Of several pairs with a key the last one stays. -/
theorem get?_ofPairs (pairs : List (κ × α)) (key : κ) :
    (ofPairs pairs).get? key = ((pairs.filter (·.1 = key)).map Prod.snd).getLast? := by
  have put (map : OrderedMap κ α) :
      (pairs.foldl (fun map pair => map.put pair.1 pair.2) map).get? key =
        ((pairs.filter (·.1 = key)).map Prod.snd).getLast?.or (map.get? key) := by
    induction pairs generalizing map with
    | nil => simp
    | cons pair rest ih =>
        rw [List.foldl_cons, ih, get?_put]
        by_cases same : pair.1 = key
        · cases last : ((rest.filter (·.1 = key)).map Prod.snd).getLast? <;>
            simp [same, List.getLast?_cons, last]
        · simp [same, Ne.symm same]
  rw [ofPairs, put, get?_empty, Option.or_none]

variable {pairs : List (κ × α)} {key : κ} {value : α}

/-- When the pairs with a key agree on its value, the order of the pairs does not matter. -/
theorem get?_ofPairs_eq {value? : Option α}
    (mem_iff : ∀ value, (key, value) ∈ pairs ↔ value? = some value) :
    (ofPairs pairs).get? key = value? := by
  have of_kept {value : α} (kept : value ∈ (pairs.filter (·.1 = key)).map Prod.snd) :
      value? = some value := by
    rcases List.mem_map.mp kept with ⟨⟨otherKey, _⟩, pair_kept, rfl⟩
    rcases List.mem_filter.mp pair_kept with ⟨pair_mem, sameKey⟩
    cases of_decide_eq_true sameKey
    exact (mem_iff _).mp pair_mem
  rw [get?_ofPairs]
  cases last : ((pairs.filter (·.1 = key)).map Prod.snd).getLast? with
  | some value => exact (of_kept (List.mem_of_getLast? last)).symm
  | none =>
      cases known : value? with
      | none => rfl
      | some value =>
          have kept : (key, value) ∈ pairs.filter (·.1 = key) :=
            List.mem_filter.mpr ⟨(mem_iff value).mpr known, by simp⟩
          rw [List.getLast?_eq_none_iff, List.map_eq_nil_iff] at last
          rw [last] at kept
          cases kept

theorem mem_entries_of_get? {map : OrderedMap κ α} (found : map.get? key = some value) :
    (key, value) ∈ map.entries := by
  obtain ⟨entries⟩ := map
  simp only [get?] at found ⊢
  induction entries with
  | nil => cases found
  | cons entry rest ih =>
      rw [find] at found
      split at found
      · rename_i same
        cases found
        subst same
        exact List.mem_cons_self
      · exact List.mem_cons_of_mem _ (ih found)

theorem mem_putEntry {entry : κ × α} {entries : List (κ × α)}
    (member : entry ∈ putEntry key value entries) : entry = (key, value) ∨ entry ∈ entries := by
  induction entries with
  | nil => exact Or.inl (List.mem_singleton.mp member)
  | cons head rest ih =>
      rw [putEntry] at member
      split at member
      · rcases List.mem_cons.mp member with new | old
        · exact Or.inl new
        · exact Or.inr (List.mem_cons_of_mem _ old)
      · rcases List.mem_cons.mp member with rfl | behind
        · exact Or.inr List.mem_cons_self
        · exact (ih behind).imp_right (List.mem_cons_of_mem _)

/-- The entries of a map are among the pairs that it is made of. -/
theorem mem_of_mem_entries_ofPairs {entry : κ × α} (member : entry ∈ (ofPairs pairs).entries) :
    entry ∈ pairs := by
  have put (pairs : List (κ × α)) (map : OrderedMap κ α)
      (kept : entry ∈ (pairs.foldl (fun map pair => map.put pair.1 pair.2) map).entries) :
      entry ∈ pairs ∨ entry ∈ map.entries := by
    induction pairs generalizing map with
    | nil => exact Or.inr kept
    | cons pair rest ih =>
        rcases ih _ kept with behind | before
        · exact Or.inl (List.mem_cons_of_mem _ behind)
        · rcases mem_putEntry before with rfl | earlier
          · exact Or.inl List.mem_cons_self
          · exact Or.inr earlier
  exact (put pairs empty member).resolve_right nofun

theorem mem_entries_ofPairs_iff
    (single : ∀ key value other, (key, value) ∈ pairs → (key, other) ∈ pairs → value = other)
    {entry : κ × α} : entry ∈ (ofPairs pairs).entries ↔ entry ∈ pairs := by
  refine ⟨mem_of_mem_entries_ofPairs, fun member => mem_entries_of_get? ?_⟩
  refine get?_ofPairs_eq fun value => ⟨fun other => ?_, ?_⟩
  · exact congrArg some (single _ _ _ member other)
  · rintro ⟨⟩
    exact member

end OrderedMap

end SignOnGate
