/-!
# NameMap — finite maps from names

A `NameMap` lists its entries in the order in which their names first came, each name once. The view
of a map is its look-up function `find?`: `find?_insert_self` and `find?_insert_of_ne` say what an
insertion does to it, and `mem_entries_iff` that the entries show the same.
-/

namespace Formulary

/-! ## Lists of entries -/

section Entries

variable {α : Type} {name key : String} {value : α}

/-- Sets the value of a name: in its place if it has one, at the end if not. -/
def setEntry (name : String) (value : α) : List (String × α) → List (String × α)
  | [] => [(name, value)]
  | (key, old) :: rest =>
    if key = name then (key, value) :: rest else (key, old) :: setEntry name value rest

/-- The value of a name. -/
def getEntry (name : String) : List (String × α) → Option α
  | [] => none
  | (key, value) :: rest => if key = name then some value else getEntry name rest

@[simp] theorem getEntry_setEntry_self (entries : List (String × α)) :
    getEntry name (setEntry name value entries) = some value := by
  induction entries with
  | nil => simp [setEntry, getEntry]
  | cons p rest ih =>
    by_cases h : p.1 = name
    · simp [setEntry, getEntry, h]
    · simpa [setEntry, getEntry, h] using ih

theorem getEntry_setEntry_of_ne (h : key ≠ name) (entries : List (String × α)) :
    getEntry key (setEntry name value entries) = getEntry key entries := by
  induction entries with
  | nil => simp [setEntry, getEntry, h.symm]
  | cons p rest ih =>
    by_cases hp : p.1 = name
    · simp [setEntry, getEntry, hp, h.symm]
    · simp [setEntry, getEntry, hp, ih]

theorem mem_keys_setEntry (entries : List (String × α)) :
    key ∈ (setEntry name value entries).map (·.1) ↔ key = name ∨ key ∈ entries.map (·.1) := by
  induction entries with
  | nil => simp [setEntry]
  | cons p rest ih =>
    by_cases hp : p.1 = name
    · simp [setEntry, hp]
    · simp only [setEntry, if_neg hp, List.map_cons, List.mem_cons, ih, or_left_comm]

theorem nodup_keys_setEntry {entries : List (String × α)} (h : (entries.map (·.1)).Nodup) :
    ((setEntry name value entries).map (·.1)).Nodup := by
  induction entries with
  | nil => simp [setEntry]
  | cons p rest ih =>
    rw [List.map_cons, List.nodup_cons] at h
    by_cases hp : p.1 = name
    · simpa [setEntry, hp] using ⟨hp ▸ by simpa using h.1, h.2⟩
    · rw [setEntry, if_neg hp, List.map_cons, List.nodup_cons, mem_keys_setEntry]
      exact ⟨fun hmem => hmem.elim hp h.1, ih h.2⟩

theorem getEntry_eq_none_iff {entries : List (String × α)} :
    getEntry key entries = none ↔ key ∉ entries.map (·.1) := by
  induction entries with
  | nil => simp [getEntry]
  | cons p rest ih =>
    by_cases hp : p.1 = key
    · simp [getEntry, hp]
    · rw [getEntry, if_neg hp, ih, List.map_cons, List.mem_cons, not_or]
      exact ⟨fun h => ⟨fun he => hp he.symm, h⟩, fun h => h.2⟩

theorem mem_of_getEntry {entries : List (String × α)} (h : getEntry key entries = some value) :
    (key, value) ∈ entries := by
  induction entries with
  | nil => cases h
  | cons p rest ih =>
    by_cases hp : p.1 = key
    · rw [getEntry, if_pos hp] at h
      cases h
      exact List.mem_cons.2 (.inl (Prod.ext hp.symm rfl))
    · rw [getEntry, if_neg hp] at h
      exact List.mem_cons_of_mem _ (ih h)

theorem getEntry_of_mem {entries : List (String × α)} (hnodup : (entries.map (·.1)).Nodup)
    (h : (key, value) ∈ entries) : getEntry key entries = some value := by
  induction entries with
  | nil => cases h
  | cons p rest ih =>
    rw [List.map_cons, List.nodup_cons] at hnodup
    rcases List.mem_cons.1 h with rfl | h
    · simp [getEntry]
    · have hp : p.1 ≠ key := fun he => hnodup.1 (he ▸ List.mem_map_of_mem h)
      rw [getEntry, if_neg hp]
      exact ih hnodup.2 h

end Entries

/-! ## Maps -/

/-- A finite map from names. -/
structure NameMap (α : Type) where
  entries : List (String × α)
  nodup_keys : (entries.map (·.1)).Nodup

namespace NameMap

variable {α : Type}

/-- The map without entries. -/
def empty : NameMap α := ⟨[], List.nodup_nil⟩

instance : EmptyCollection (NameMap α) := ⟨empty⟩

instance : Inhabited (NameMap α) := ⟨empty⟩

/-- The value of a name. -/
def find? (m : NameMap α) (name : String) : Option α :=
  getEntry name m.entries

/-- Whether a name has a value. -/
def contains (m : NameMap α) (name : String) : Bool :=
  (m.find? name).isSome

/-- Sets the value of a name. -/
def insert (m : NameMap α) (name : String) (value : α) : NameMap α :=
  ⟨setEntry name value m.entries, nodup_keys_setEntry m.nodup_keys⟩

/-- How many names have a value. -/
def size (m : NameMap α) : Nat :=
  m.entries.length

/-- The names in order. -/
def names (m : NameMap α) : List String :=
  m.entries.map (·.1)

/-- The map with these entries; of two for one name the later wins. -/
def ofList (entries : List (String × α)) : NameMap α :=
  entries.foldl (fun m p => m.insert p.1 p.2) empty

@[simp] theorem find?_empty (name : String) : (empty : NameMap α).find? name = none := rfl

@[simp] theorem find?_insert_self (m : NameMap α) (name : String) (value : α) :
    (m.insert name value).find? name = some value :=
  getEntry_setEntry_self m.entries

theorem find?_insert_of_ne (m : NameMap α) {name key : String} (value : α) (h : key ≠ name) :
    (m.insert name value).find? key = m.find? key :=
  getEntry_setEntry_of_ne h m.entries

/-- What is found after an insertion is what was inserted or was there before. -/
theorem find?_insert_eq_some {m : NameMap α} {name key : String} {value found : α}
    (h : (m.insert name value).find? key = some found) :
    (key = name ∧ found = value) ∨ m.find? key = some found := by
  by_cases hkey : key = name
  · subst hkey
    rw [find?_insert_self, Option.some.injEq] at h
    exact .inl ⟨rfl, h.symm⟩
  · rw [find?_insert_of_ne m value hkey] at h
    exact .inr h

theorem mem_entries_iff {m : NameMap α} {name : String} {value : α} :
    (name, value) ∈ m.entries ↔ m.find? name = some value :=
  ⟨getEntry_of_mem m.nodup_keys, mem_of_getEntry⟩

end NameMap

end Formulary
