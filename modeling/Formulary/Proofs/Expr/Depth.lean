import Formulary.Expr.Depth

/-!
# Proofs/Expr/Depth — the work list measures the height

The list of pending nodes finds the level of the deepest one, in whatever order the nodes come: the
depth of an expression is its height.
-/

namespace Formulary.Expr

variable {T : Type}

theorem height_eq (e : Expr T) : e.height = 1 + heights e.children := by
  cases e <;> simp [height, children, heights]

/-- The deepest level below pending nodes. -/
def reach : List (Expr T × Nat) → Nat
  | [] => 0
  | (e, level) :: pending => max (level + heights e.children) (reach pending)

theorem reach_append (xs ys : List (Expr T × Nat)) : reach (xs ++ ys) = max (reach xs) (reach ys) := by
  induction xs with
  | nil => simp [reach]
  | cons p xs ih => rw [List.cons_append, reach, reach, ih, Nat.max_assoc]

/-- The nodes directly below one reach one level further. -/
theorem max_reach_map (level : Nat) (es : List (Expr T)) :
    max level (reach (es.map (·, level + 1))) = level + heights es := by
  induction es with
  | nil => simp [reach, heights]
  | cons e es ih =>
    rw [List.map_cons, reach, heights, height_eq]
    omega

/-- **The search ends at the deepest level**: every node is replaced by those below it. -/
theorem deepest_eq (found : Nat) (pending : List (Expr T × Nat)) :
    deepest found pending = max found (reach pending) := by
  induction found, pending using deepest.induct with
  | case1 found => simp [deepest, reach]
  | case2 found e level pending ih =>
    have hbelow := max_reach_map level e.children
    rw [deepest, ih, reach_append, reach]
    omega

/-- The depth of an expression is its height. -/
theorem depth_eq_height (e : Expr T) : e.depth = e.height := by
  rw [depth, deepest_eq, reach, reach, height_eq]
  omega

theorem checkDepth_eq_ok {e : Expr T} : e.checkDepth = .ok () ↔ e.height ≤ maxDepth := by
  rw [checkDepth, depth_eq_height]
  split
  · next h => exact ⟨nofun, fun hle => absurd h (Nat.not_lt.2 hle)⟩
  · next h => exact ⟨fun _ => Nat.not_lt.1 h, fun _ => rfl⟩

/-- What is no deeper one by one has no deeper level altogether. -/
theorem heights_map_le {ι : Type} {f g : ι → Expr T} {xs : List ι}
    (h : ∀ x ∈ xs, (f x).height ≤ (g x).height) : heights (xs.map f) ≤ heights (xs.map g) := by
  induction xs with
  | nil => exact Nat.le_refl _
  | cons x xs ih =>
    have hhead := h x List.mem_cons_self
    have hrest := ih fun y hy => h y (List.mem_cons_of_mem _ hy)
    rw [List.map_cons, List.map_cons, heights, heights]
    omega

end Formulary.Expr
