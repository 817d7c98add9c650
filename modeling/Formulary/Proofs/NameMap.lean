import Formulary.NameMap

/-!
# Proofs/NameMap — maps in another order

A map lists its entries in the order in which their names first came, which no look-up can see: maps
that are reorderings of each other have the same names and values. A new name comes last.
-/

namespace Formulary

variable {α : Type}

theorem setEntry_of_not_mem {name : String} {value : α} {entries : List (String × α)}
    (h : name ∉ entries.map (·.1)) : setEntry name value entries = entries ++ [(name, value)] := by
  induction entries with
  | nil => rfl
  | cons p rest ih =>
    rw [List.map_cons, List.mem_cons, not_or] at h
    rw [setEntry, if_neg (Ne.symm h.1), ih h.2, List.cons_append]

namespace NameMap

variable {m m' : NameMap α}

/-- Two maps have the same entries, in whatever order. -/
def Reorders (m m' : NameMap α) : Prop :=
  m.entries.Perm m'.entries

theorem Reorders.find?_eq (h : m.Reorders m') (name : String) : m.find? name = m'.find? name := by
  refine Option.ext fun value => ?_
  rw [← mem_entries_iff, ← mem_entries_iff, h.mem_iff]

theorem mem_names_iff {name : String} : name ∈ m.names ↔ ∃ value, m.find? name = some value := by
  simp only [names, List.mem_map, ← mem_entries_iff]
  exact ⟨fun ⟨p, hp, hname⟩ => ⟨p.2, hname ▸ hp⟩, fun ⟨value, h⟩ => ⟨_, h, rfl⟩⟩

theorem contains_iff {name : String} : m.contains name = true ↔ name ∈ m.names := by
  rw [mem_names_iff, contains, Option.isSome_iff_exists]

end NameMap

end Formulary
