/-!
# Proofs/Program/Pool — pools with one entry per name

A pool of a program is an array that only grows. `enter` adds an entry unless one with its name is
there, and `indexOf` is its place afterwards, in this pool and in every one that extends it.
-/

namespace Formulary.Pool

variable {α : Type}

/-! ## Growing -/

/-- Every entry keeps its place. -/
def Extends (larger smaller : Array α) : Prop :=
  ∀ (i : Nat) (x : α), smaller[i]? = some x → larger[i]? = some x

theorem Extends.refl (pool : Array α) : Extends pool pool := fun _ _ h => h

theorem Extends.trans {a b c : Array α} (hab : Extends a b) (hbc : Extends b c) : Extends a c :=
  fun i x h => hab i x (hbc i x h)

theorem extends_push (pool : Array α) (x : α) : Extends (pool.push x) pool := by
  intro i y h
  obtain ⟨hi, rfl⟩ := Array.getElem?_eq_some_iff.1 h
  rw [Array.getElem?_push_lt hi]

theorem extends_append (pool more : Array α) : Extends (pool ++ more) pool := by
  intro i y h
  obtain ⟨hi, rfl⟩ := Array.getElem?_eq_some_iff.1 h
  rw [Array.getElem?_append_left hi, Array.getElem?_eq_getElem hi]

theorem extends_foldl {β : Type} {f : Array α → β → Array α} (hf : ∀ pool x, Extends (f pool x) pool)
    {xs : List β} {pool : Array α} : Extends (xs.foldl f pool) pool := by
  induction xs generalizing pool with
  | nil => exact .refl pool
  | cons x xs ih => exact ih.trans (hf pool x)

theorem Extends.size_le {larger smaller : Array α} (h : Extends larger smaller) :
    smaller.size ≤ larger.size := by
  rcases Nat.lt_or_ge larger.size smaller.size with hlt | hle
  · have hlast := h larger.size _ (Array.getElem?_eq_getElem hlt)
    rw [Array.getElem?_eq_none (Nat.le_refl _)] at hlast
    cases hlast
  · exact hle

/-! ## Entering -/

/-- The place of an entry, which is the next free one if there is none. -/
def indexOf (p : α → Bool) (pool : Array α) : Nat :=
  (pool.findIdx? p).getD pool.size

/-- The pool with an entry, unless it has one already. -/
def enter (p : α → Bool) (x : α) (pool : Array α) : Array α :=
  if (pool.findIdx? p).isSome then pool else pool.push x

variable {p : α → Bool} {pool : Array α}

theorem enter_of_some (x : α) {i : Nat} (h : pool.findIdx? p = some i) :
    indexOf p pool = i ∧ enter p x pool = pool := by
  rw [indexOf, enter, h]
  exact ⟨rfl, rfl⟩

theorem enter_of_none (x : α) (h : pool.findIdx? p = none) :
    indexOf p pool = pool.size ∧ enter p x pool = pool.push x := by
  rw [indexOf, enter, h]
  exact ⟨rfl, rfl⟩

theorem extends_enter (p : α → Bool) (x : α) (pool : Array α) :
    Extends (enter p x pool) pool := by
  rw [enter]
  split
  · exact .refl pool
  · exact extends_push pool x

/-- **The entry is found at its index**: an old one that passes for it, or itself. -/
theorem getElem?_indexOf_enter (p : α → Bool) (x : α) (pool : Array α) :
    ∃ y, (enter p x pool)[indexOf p pool]? = some y ∧ (y = x ∨ y ∈ pool ∧ p y = true) := by
  cases h : pool.findIdx? p with
  | none =>
    rw [(enter_of_none x h).1, (enter_of_none x h).2]
    exact ⟨x, Array.getElem?_push_size, .inl rfl⟩
  | some i =>
    rw [(enter_of_some x h).1, (enter_of_some x h).2]
    obtain ⟨hi, hp, _⟩ := Array.findIdx?_eq_some_iff_getElem.1 h
    exact ⟨pool[i], Array.getElem?_eq_getElem hi, .inr ⟨Array.getElem_mem hi, hp⟩⟩

theorem mem_enter {x y : α} (h : y ∈ enter p x pool) : y = x ∨ y ∈ pool := by
  rw [enter] at h
  split at h
  · exact .inr h
  · rcases Array.mem_push.1 h with hold | hnew
    · exact .inr hold
    · exact .inl hnew

theorem indexOf_lt_size (p : α → Bool) (x : α) (pool : Array α) :
    indexOf p pool < (enter p x pool).size := by
  obtain ⟨y, hy, _⟩ := getElem?_indexOf_enter p x pool
  exact (Array.getElem?_eq_some_iff.1 hy).1

end Formulary.Pool
