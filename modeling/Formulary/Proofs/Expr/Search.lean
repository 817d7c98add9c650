import Mathlib.Data.List.Perm.Basic
import Formulary.Proofs.Expr.Depth

/-!
# Proofs/Expr/Search — measuring the depth in any order

The depth of an expression is found without descending into it: pending nodes are taken one by one, and
those below them are pending in turn. Which node is taken and where the others are put does not matter.
A round leaves the deepest level to be found as it is (`Round.outcome_eq`) and one node fewer to be taken
(`Round.remaining_eq`), so that every search ends after as many rounds as there are nodes, with the
height of the expression.
-/

namespace Formulary.Expr

variable {T : Type}

theorem size_eq (e : Expr T) : e.size = 1 + sizes e.children := by
  cases e <;> simp [size, children, sizes, Nat.add_assoc]

theorem heights_eq (es : List (Expr T)) : heights es = (es.map height).foldr max 0 := by
  induction es with
  | nil => rfl
  | cons e es ih => rw [heights, ih, List.map_cons, List.foldr_cons]

/-! ## Pending nodes in another order -/

theorem reach_perm {xs ys : List (Expr T × Nat)} (h : xs.Perm ys) : reach xs = reach ys := by
  induction h with
  | nil => rfl
  | cons p _ ih => rw [reach, reach, ih]
  | swap p q rest => rw [reach, reach, reach, reach, Nat.max_left_comm]
  | trans _ _ ih ih' => rw [ih, ih']

theorem pendingSize_append (xs ys : List (Expr T × Nat)) :
    pendingSize (xs ++ ys) = pendingSize xs + pendingSize ys := by
  rw [pendingSize, List.map_append, sizes_append, pendingSize, pendingSize]

theorem pendingSize_perm {xs ys : List (Expr T × Nat)} (h : xs.Perm ys) :
    pendingSize xs = pendingSize ys := by
  have hsizes {es es' : List (Expr T)} (h : es.Perm es') : sizes es = sizes es' := by
    induction h with
    | nil => rfl
    | cons e _ ih => rw [sizes, sizes, ih]
    | swap e e' rest => rw [sizes, sizes, sizes, sizes, Nat.add_left_comm]
    | trans _ _ ih ih' => rw [ih, ih']
  exact hsizes (h.map _)

/-! ## Searches -/

/-- How far a search has come: the deepest level found so far, and the nodes that are pending, each with
its level. -/
structure Search (T : Type) where
  found : Nat
  pending : List (Expr T × Nat)

namespace Search

/-- Before the first round. -/
def start (e : Expr T) : Search T :=
  ⟨0, [(e, 1)]⟩

/-- The nodes directly below one, at the next level. -/
def below (e : Expr T) (level : Nat) : List (Expr T × Nat) :=
  e.children.map (·, level + 1)

/-- One round of a search: any pending node is taken, and those below it join the others in any order. -/
inductive Round : Search T → Search T → Prop where
  | take {found level : Nat} {e : Expr T} {before after pending : List (Expr T × Nat)} :
    pending.Perm (before ++ after ++ below e level) →
      Round ⟨found, before ++ (e, level) :: after⟩ ⟨max found level, pending⟩

/-- A number of rounds. -/
inductive Rounds : Nat → Search T → Search T → Prop where
  | none (s : Search T) : Rounds 0 s s
  | more {n : Nat} {s s' s'' : Search T} : Round s s' → Rounds n s' s'' → Rounds (n + 1) s s''

/-- The deepest level that a search is going to find. -/
def outcome (s : Search T) : Nat :=
  max s.found (reach s.pending)

/-- How many nodes are still to be taken. -/
def remaining (s : Search T) : Nat :=
  pendingSize s.pending

theorem outcome_start (e : Expr T) : (start e).outcome = e.height := by
  change max 0 (max (1 + heights e.children) 0) = e.height
  rw [height_eq]
  omega

theorem remaining_start (e : Expr T) : (start e).remaining = e.size := by
  rw [remaining, start, pendingSize, List.map_singleton, sizes, sizes, Nat.add_zero]

variable {s s' : Search T}

/-- A search without pending nodes has found its outcome. -/
theorem eq_of_pending_eq_nil (h : s.pending = []) : s = ⟨s.outcome, []⟩ := by
  obtain ⟨found, pending⟩ := s
  obtain rfl : pending = [] := h
  rw [outcome, reach, Nat.max_zero]

theorem exists_round (h : s.pending ≠ []) : ∃ s', Round s s' := by
  obtain ⟨found, pending⟩ := s
  obtain ⟨⟨e, level⟩, rest, rfl⟩ := List.exists_cons_of_ne_nil h
  exact ⟨_, @Round.take _ found level e [] rest _ (.refl _)⟩

/-- **No round changes the outcome**: a node that is taken counts itself, and those below it count what
it reached. -/
theorem Round.outcome_eq (h : Round s s') : s'.outcome = s.outcome := by
  obtain @⟨found, level, e, before, after, pending, hperm⟩ := h
  have hbelow := max_reach_map level e.children
  change max (max found level) (reach pending) = max found (reach (before ++ (e, level) :: after))
  rw [reach_perm hperm, reach_append, reach_append, reach_append, reach, below]
  omega

/-- **Every round takes one node.** -/
theorem Round.remaining_eq (h : Round s s') : s'.remaining + 1 = s.remaining := by
  obtain @⟨found, level, e, before, after, pending, hperm⟩ := h
  have hnode : pendingSize ((e, level) :: after) = 1 + sizes e.children + pendingSize after := by
    rw [pendingSize, List.map_cons, sizes, size_eq, pendingSize]
  have hbelow : pendingSize (below e level) = sizes e.children := by
    rw [pendingSize, below, List.map_map]
    exact congrArg sizes (List.map_id _)
  rw [remaining, remaining, pendingSize_perm hperm, pendingSize_append, pendingSize_append,
    pendingSize_append, hnode, hbelow]
  omega

theorem Rounds.outcome_eq {n : Nat} (h : Rounds n s s') : s'.outcome = s.outcome := by
  induction h with
  | none => rfl
  | more hround _ ih => rw [ih, hround.outcome_eq]

theorem Rounds.remaining_eq {n : Nat} (h : Rounds n s s') : n + s'.remaining = s.remaining := by
  induction h with
  | none => rw [Nat.zero_add]
  | more hround _ ih =>
    have hone := hround.remaining_eq
    omega

/-- **A search is over only when every node has been taken**, and then it has found the height. -/
theorem Rounds.ends {e : Expr T} {n : Nat} (h : Rounds n (start e) s) :
    (∃ s', Round s s') ∨ s = ⟨e.height, []⟩ := by
  by_cases hpending : s.pending = []
  · refine .inr ?_
    rw [eq_of_pending_eq_nil hpending, h.outcome_eq, outcome_start]
  · exact .inl (exists_round hpending)

/-! ## The pending nodes as a stack -/

/-- The round in which the last of the pending nodes is taken, and those below it come after all
others. -/
def pop? (s : Search T) : Option (Search T) :=
  s.pending.getLast?.map fun p => ⟨max s.found p.2, s.pending.dropLast ++ below p.1 p.2⟩

/-- Goes on for a number of rounds, or until no node is pending. -/
def popUpTo : Nat → Search T → Search T
  | 0, s => s
  | n + 1, s =>
    match s.pop? with
    | some s' => popUpTo n s'
    | none => s

theorem pop?_eq_none (h : s.pop? = none) : s.pending = [] := by
  rwa [pop?, Option.map_eq_none_iff, List.getLast?_eq_none_iff] at h

theorem round_of_pop? (h : s.pop? = some s') : Round s s' := by
  obtain ⟨found, pending⟩ := s
  obtain ⟨⟨e, level⟩, hlast, rfl⟩ := Option.map_eq_some_iff.1 h
  obtain ⟨before, rfl⟩ := List.getLast?_eq_some_iff.1 hlast
  rw [List.dropLast_concat]
  refine .take ?_
  rw [List.append_nil]

/-- A stack is empty once there have been as many rounds as nodes. -/
theorem popUpTo_eq {n : Nat} (h : s.remaining ≤ n) : popUpTo n s = ⟨s.outcome, []⟩ := by
  induction n generalizing s with
  | zero =>
    have hnone : s.pending = [] := by
      by_contra hpending
      obtain ⟨s', hround⟩ := exists_round hpending
      have hone := hround.remaining_eq
      omega
    exact eq_of_pending_eq_nil hnone
  | succ n ih =>
    rw [popUpTo]
    split
    · next s' hpop =>
      have hround := round_of_pop? hpop
      have hone := hround.remaining_eq
      rw [ih (by omega), hround.outcome_eq]
    · next hpop => exact eq_of_pending_eq_nil (pop?_eq_none hpop)

end Search

open Search

/-- **The depth of an expression is its height, in whatever order it is measured.** A search takes each
node once, and when no node is pending it has found the height; so has the one that keeps the pending
nodes on a stack. The height is one more than that of the highest expression directly below, or one, and
expressions are refused for their depth exactly if it exceeds the limit. -/
theorem depth_any_order (e : Expr T) :
    (∀ n s, Rounds n (start e) s →
      n + s.remaining = e.size ∧ ((∃ s', Round s s') ∨ s = ⟨e.height, []⟩)) ∧
      (∀ n, popUpTo (e.size + n) (start e) = ⟨e.height, []⟩) ∧
      e.depth = e.height ∧
      e.height = 1 + (e.children.map height).foldr max 0 ∧
      (e.checkDepth = .error (.tooDeep maxDepth) ↔ maxDepth < e.height) ∧
      (e.checkDepth = .ok () ↔ e.height ≤ maxDepth) := by
  refine ⟨fun n s h => ⟨?_, h.ends⟩, fun n => ?_, depth_eq_height e, ?_, ?_, checkDepth_eq_ok⟩
  · rw [h.remaining_eq, remaining_start]
  · rw [popUpTo_eq, outcome_start]
    exact remaining_start e ▸ Nat.le_add_right _ _
  · rw [height_eq, heights_eq]
  · rw [checkDepth, depth_eq_height]
    split
    · next h => exact iff_of_true rfl h
    · next h => exact iff_of_false (fun hok => by cases hok) h

/-- The arguments of `max(1, -2)` may be put in the other order; three levels are found. -/
theorem depth_any_order_call :
    let e : Expr Unit := .call "max" [.int 1, .neg (.int 2)]
    let s : Search Unit := ⟨1, [(.neg (.int 2), 2), (.int 1, 2)]⟩
    Rounds 1 (start e) s ∧ 1 + s.remaining = e.size ∧ popUpTo 4 (start e) = ⟨3, []⟩ ∧ e.depth = 3 := by
  intro e s
  have hround : Rounds 1 (start e) s :=
    .more (@Round.take _ 0 1 e [] [] _ (.swap ..)) (.none _)
  obtain ⟨hrounds, hstack, hdepth, -⟩ := depth_any_order e
  have hheight : e.height = 3 := rfl
  exact ⟨hround, (hrounds 1 _ hround).1, hheight ▸ hstack 0, hdepth.trans hheight⟩

end Formulary.Expr
