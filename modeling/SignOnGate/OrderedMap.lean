/-!
# Insertion-ordered maps

A map is the list of its entries in the order in which their keys were first put. Putting a key that
is already there keeps its place and changes its value. The laws are stated through `get?`.
-/

namespace SignOnGate

universe u v

/-- A map that remembers the order in which its keys were first put. -/
structure OrderedMap (κ : Type u) (α : Type v) where
  entries : List (κ × α) := []
  deriving Repr, DecidableEq

namespace OrderedMap

variable {κ : Type u} {α : Type v}

/-- The map without entries. -/
def empty : OrderedMap κ α := ⟨[]⟩

instance : EmptyCollection (OrderedMap κ α) := ⟨empty⟩

instance : Inhabited (OrderedMap κ α) := ⟨empty⟩

/-- The keys, in order. -/
def keys (map : OrderedMap κ α) : List κ :=
  map.entries.map Prod.fst

/-- Whether there is no entry. -/
def isEmpty (map : OrderedMap κ α) : Bool :=
  map.entries.isEmpty

variable [DecidableEq κ]

/-- The first value under a key in a list of entries. -/
def find (key : κ) : List (κ × α) → Option α
  | [] => none
  | (other, value) :: rest => if other = key then some value else find key rest

/-- A list of entries with one more, or with the value under its key changed. -/
def putEntry (key : κ) (value : α) : List (κ × α) → List (κ × α)
  | [] => [(key, value)]
  | (other, old) :: rest =>
    if other = key then (key, value) :: rest else (other, old) :: putEntry key value rest

/-- The value under a key. -/
def get? (map : OrderedMap κ α) (key : κ) : Option α :=
  find key map.entries

/-- Whether there is a value under a key. -/
def contains (map : OrderedMap κ α) (key : κ) : Bool :=
  (map.get? key).isSome

/-- The map with a value under a key. -/
def put (map : OrderedMap κ α) (key : κ) (value : α) : OrderedMap κ α :=
  ⟨putEntry key value map.entries⟩

/-- The map with a value under a key that had none; an earlier value is kept. -/
def putNew (map : OrderedMap κ α) (key : κ) (value : α) : OrderedMap κ α :=
  if map.contains key then map else map.put key value

/-- The map without a key. -/
def erase (map : OrderedMap κ α) (key : κ) : OrderedMap κ α :=
  ⟨map.entries.filter (·.1 ≠ key)⟩

/-- The map that arises from putting the pairs one after the other. -/
def ofPairs (pairs : List (κ × α)) : OrderedMap κ α :=
  pairs.foldl (fun map pair => map.put pair.1 pair.2) empty

/--
The map that arises from putting the pairs one after the other, the first of each key staying.
-/
def ofFirst (pairs : List (κ × α)) : OrderedMap κ α :=
  pairs.foldl (fun map pair => map.putNew pair.1 pair.2) empty

@[simp]
theorem get?_empty (key : κ) : (empty : OrderedMap κ α).get? key = none := rfl

/-- The value that was put last is found. -/
@[simp]
theorem get?_put_self (map : OrderedMap κ α) (key : κ) (value : α) :
    (map.put key value).get? key = some value := by
  obtain ⟨entries⟩ := map
  simp only [get?, put]
  induction entries with
  | nil => simp [putEntry, find]
  | cons entry rest ih =>
    by_cases same : entry.1 = key
    · simp [putEntry, find, same]
    · simp [putEntry, find, same, ih]

/-- Putting a value leaves the values of all other keys alone. -/
theorem get?_put_of_ne (map : OrderedMap κ α) {key other : κ} (value : α)
    (different : other ≠ key) :
    (map.put key value).get? other = map.get? other := by
  obtain ⟨entries⟩ := map
  simp only [get?, put]
  induction entries with
  | nil => simp [putEntry, find, Ne.symm different]
  | cons entry rest ih =>
    by_cases same : entry.1 = key
    · simp [putEntry, find, same, Ne.symm different]
    · simp only [putEntry, same, if_false, find, ih]

@[simp]
theorem get?_erase_self (map : OrderedMap κ α) (key : κ) : (map.erase key).get? key = none := by
  obtain ⟨entries⟩ := map
  simp only [get?, erase]
  induction entries with
  | nil => rfl
  | cons entry rest ih =>
    by_cases same : entry.1 = key
    · simpa [same] using ih
    · simpa [same, find] using ih

/-- Erasing a key leaves the values of all other keys alone. -/
theorem get?_erase_of_ne (map : OrderedMap κ α) {key other : κ} (different : other ≠ key) :
    (map.erase key).get? other = map.get? other := by
  obtain ⟨entries⟩ := map
  simp only [get?, erase]
  induction entries with
  | nil => rfl
  | cons entry rest ih =>
    by_cases same : entry.1 = key
    · simpa [same, find, Ne.symm different] using ih
    · by_cases found : entry.1 = other
      · simp [find, found, different]
      · simpa [List.filter_cons, same, find, found] using ih

end OrderedMap

end SignOnGate
