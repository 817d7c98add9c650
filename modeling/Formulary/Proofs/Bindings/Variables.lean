import Formulary.Bindings
import Formulary.Number.Fixed.Instance
import Formulary.Proofs.NameMap
import Mathlib.Data.List.Nodup

/-!
# Proofs/Bindings/Variables — bindings from a caller's variables

A caller's map may hold several spellings of one variable, and its entries come in any order. Adding
them one by one stops at the first that repeats a variable. `Collects` says how that ends without
looking at the order: two names fold alike, or the bindings are the caller's entries with folded names.
-/

namespace Formulary.Bindings

open Text

variable {T : Type}

/-- An entry as bindings store it. -/
def foldEntry (p : String × T) : String × T :=
  (foldName p.1, p.2)

/-- Two names of a caller are spellings of one variable. -/
def Collides (vars : List (String × T)) (name : String) : Prop :=
  ∃ p ∈ vars, ∃ q ∈ vars, p.1 ≠ q.1 ∧ foldName p.1 = name ∧ foldName q.1 = name

/-- How adding a caller's entries ends: at a variable with two spellings, or with all of them under
their folded names. -/
inductive Collects (vars : List (String × T)) : Except FormulaError (Bindings T) → Prop where
  | refused {name : String} : Collides vars name → Collects vars (.error (.duplicateVariable name))
  | collected {b : Bindings T} : b.entries = vars.map foldEntry → Collects vars (.ok b)

/-! ## Adding entries one by one -/

theorem contains_iff {b : Bindings T} {seen : List (String × T)} (hb : b.entries = seen.map foldEntry)
    {name : String} : b.contains name = true ↔ ∃ p ∈ seen, foldName p.1 = foldName name := by
  have hnames : b.values.names = seen.map fun p => foldName p.1 := by
    have := congrArg (List.map (·.1)) hb
    rwa [List.map_map] at this
  rw [contains, NameMap.contains_iff, hnames, List.mem_map]

/-- A variable that is new comes last. -/
theorem entries_insert {b : Bindings T} {seen : List (String × T)}
    (hb : b.entries = seen.map foldEntry) {name : String} (value : T)
    (hnew : ¬∃ p ∈ seen, foldName p.1 = foldName name) :
    (b.insert name value).entries = (seen ++ [(name, value)]).map foldEntry := by
  have hmem : foldName name ∉ b.values.names := by
    rwa [← contains_iff hb, contains, NameMap.contains_iff] at hnew
  rw [List.map_append, ← hb]
  exact setEntry_of_not_mem hmem

/-- **Adding distinct variables** to those seen before, by induction on those still to come. -/
theorem collects_addDistinct (seen : List (String × T)) {rest : List (String × T)}
    (hnames : ((seen ++ rest).map (·.1)).Nodup) {b : Bindings T}
    (hb : b.entries = seen.map foldEntry) : Collects (seen ++ rest) (addDistinct b rest) := by
  induction rest generalizing seen b with
  | nil =>
    rw [List.append_nil]
    exact .collected hb
  | cons p rest ih =>
    obtain ⟨name, value⟩ := p
    rw [addDistinct]
    split
    · next hcontains =>
      obtain ⟨q, hq, hfold⟩ := (contains_iff hb).1 hcontains
      have hne : q.1 ≠ name := by
        rw [List.map_append, List.nodup_append] at hnames
        exact hnames.2.2 q.1 (List.mem_map_of_mem hq) name List.mem_cons_self
      exact .refused ⟨q, List.mem_append_left _ hq, (name, value),
        List.mem_append_right _ List.mem_cons_self, hne, hfold, rfl⟩
    · next hcontains =>
      have hnew := mt (contains_iff hb).2 hcontains
      rw [List.append_cons] at hnames ⊢
      exact ih _ hnames (entries_insert hb value hnew)

theorem collects_ofVariables? (vars : NameMap T) : Collects vars.entries (ofVariables? vars) :=
  collects_addDistinct [] vars.nodup_keys rfl

/-- Inserting variables that are all new adds their entries in order. -/
theorem entries_foldl_insert (seen : List (String × T)) {rest : List (String × T)}
    (hnodup : ((seen ++ rest).map fun p => foldName p.1).Nodup) {b : Bindings T}
    (hb : b.entries = seen.map foldEntry) :
    (rest.foldl (fun b p => b.insert p.1 p.2) b).entries = (seen ++ rest).map foldEntry := by
  induction rest generalizing seen b with
  | nil => rw [List.append_nil, List.foldl_nil, hb]
  | cons p rest ih =>
    obtain ⟨name, value⟩ := p
    have hnew : ¬∃ q ∈ seen, foldName q.1 = foldName name := by
      rintro ⟨q, hq, hfold⟩
      rw [List.map_append, List.nodup_append] at hnodup
      exact hnodup.2.2 _ (List.mem_map_of_mem hq) _ List.mem_cons_self hfold
    rw [List.append_cons] at hnodup ⊢
    exact ih _ hnodup (entries_insert hb value hnew)

/-! ## Collisions -/

theorem Collides.of_perm {vars vars' : List (String × T)} (h : vars.Perm vars') {name : String}
    (hcollides : Collides vars name) : Collides vars' name := by
  obtain ⟨p, hp, q, hq, hne⟩ := hcollides
  exact ⟨p, h.mem_iff.1 hp, q, h.mem_iff.1 hq, hne⟩

/-- What bindings store has every variable once. -/
theorem nodup_of_entries_eq {b : Bindings T} {vars : List (String × T)}
    (hb : b.entries = vars.map foldEntry) : (vars.map fun p => foldName p.1).Nodup := by
  have hkeys : (b.entries.map (·.1)).Nodup := b.values.nodup_keys
  rwa [hb, List.map_map] at hkeys

theorem not_collides_of_entries_eq {b : Bindings T} {vars : List (String × T)}
    (hb : b.entries = vars.map foldEntry) (name : String) : ¬Collides vars name := by
  rintro ⟨p, hp, q, hq, hne, hfold, hfold'⟩
  have hsame : p = q :=
    List.inj_on_of_nodup_map (nodup_of_entries_eq hb) hp hq (hfold.trans hfold'.symm)
  exact hne (congrArg Prod.fst hsame)

/-! ## Every order -/

/-- **Bindings from a caller's variables do not depend on their order.** Whichever order the entries are
visited in, they are refused exactly if two of the names fold alike, and the variable reported is one
with two spellings. Otherwise the bindings are the same for every order; they have as many entries as
there were variables, find each value under every spelling of its name, and are those that inserting
the variables one after the other yields, in any order again. -/
theorem ofVariables?_reorders {vars vars' : NameMap T} (h : vars.Reorders vars') :
    ((∃ error, ofVariables? vars' = .error error) ↔ ∃ name, Collides vars.entries name) ∧
      (∀ error, ofVariables? vars' = .error error →
        ∃ name, error = .duplicateVariable name ∧ Collides vars.entries name) ∧
      ∀ b', ofVariables? vars' = .ok b' →
        (∃ b, ofVariables? vars = .ok b ∧ b.values.Reorders b'.values) ∧
        b'.size = vars.size ∧
        (∀ name value, vars.find? name = some value → ∀ spelling,
          foldName spelling = foldName name → b'.get? spelling = some value) ∧
        ∀ pairs, vars.entries.Perm pairs → (ofList pairs).values.Reorders b'.values := by
  have hcollects := collects_ofVariables? vars
  have hcollects' := collects_ofVariables? vars'
  generalize ofVariables? vars' = outcome' at hcollects'
  cases hcollects' with
  | @refused name hcollides =>
    have hsame : Collides vars.entries name := hcollides.of_perm h.symm
    refine ⟨⟨fun _ => ⟨name, hsame⟩, fun _ => ⟨_, rfl⟩⟩, ?_, nofun⟩
    rintro _ ⟨⟩
    exact ⟨name, rfl, hsame⟩
  | @collected b' hb' =>
    have hfree : ¬∃ name, Collides vars.entries name := fun ⟨name, hcollides⟩ =>
      not_collides_of_entries_eq hb' name (hcollides.of_perm h)
    refine ⟨⟨nofun, fun hcollides => (hfree hcollides).elim⟩, nofun, ?_⟩
    rintro _ ⟨⟩
    refine ⟨?_, ?_, ?_, ?_⟩
    · generalize ofVariables? vars = outcome at hcollects
      cases hcollects with
      | @refused name hcollides => exact (hfree ⟨name, hcollides⟩).elim
      | @collected b hb =>
        refine ⟨b, rfl, ?_⟩
        change b.entries.Perm b'.entries
        rw [hb, hb']
        exact h.map foldEntry
    · change b'.entries.length = vars.entries.length
      rw [hb', List.length_map, h.length_eq]
    · intro name value hvalue spelling hspelling
      have hmem : (name, value) ∈ vars'.entries := h.mem_iff.1 (NameMap.mem_entries_iff.2 hvalue)
      have hentry : (foldName name, value) ∈ b'.entries := by
        rw [hb']
        exact List.mem_map_of_mem hmem
      rw [get?, hspelling]
      exact NameMap.mem_entries_iff.1 hentry
    · intro pairs hpairs
      have hperm : vars'.entries.Perm pairs := h.symm.trans hpairs
      have hnodup : (pairs.map fun p => foldName p.1).Nodup :=
        (hperm.map _).nodup_iff.1 (nodup_of_entries_eq hb')
      have hlist : (ofList pairs).entries = pairs.map foldEntry :=
        entries_foldl_insert [] hnodup rfl
      change (ofList pairs).entries.Perm b'.entries
      rw [hlist, hb']
      exact hperm.symm.map foldEntry

/-- `X` and `y` are two variables in either order, and `X` and `x` are one. -/
theorem ofVariables?_reorders_pair :
    let vars : NameMap Fixed := ⟨[("X", Numeric.one), ("y", Numeric.zero)], by decide⟩
    let vars' : NameMap Fixed := ⟨[("y", Numeric.zero), ("X", Numeric.one)], by decide⟩
    let twice : NameMap Fixed := ⟨[("x", Numeric.one), ("X", Numeric.zero)], by decide⟩
    (vars.Reorders vars' ∧ ∃ b', ofVariables? vars' = .ok b' ∧ b'.size = 2 ∧
        b'.get? "x" = some Numeric.one) ∧
      twice.Reorders twice ∧ ∃ error, ofVariables? twice = .error error := by
  intro vars vars' twice
  have hvars : vars.Reorders vars' := .swap ..
  have htwice : twice.Reorders twice := .refl _
  have hfold : foldName "x" = foldName "X" := by with_unfolding_all rfl
  refine ⟨⟨hvars, ?_⟩, htwice, ?_⟩
  · have hok : ∃ b', ofVariables? vars' = .ok b' := ⟨_, by with_unfolding_all rfl⟩
    obtain ⟨b', hb'⟩ := hok
    obtain ⟨-, hsize, hget, -⟩ := (ofVariables?_reorders hvars).2.2 b' hb'
    exact ⟨b', hb', hsize, hget "X" Numeric.one rfl "x" hfold⟩
  · refine (ofVariables?_reorders htwice).1.2 ⟨foldName "X", ?_⟩
    exact ⟨_, List.mem_cons_self, _, List.mem_cons_of_mem _ List.mem_cons_self, by decide, hfold, rfl⟩

end Formulary.Bindings
