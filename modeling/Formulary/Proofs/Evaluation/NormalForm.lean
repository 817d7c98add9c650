import Formulary.Number.Fixed.Instance
import Formulary.Proofs.Evaluation.Fold
import Formulary.Proofs.Expr.Nodes

/-!
# Proofs/Evaluation/NormalForm — folding leaves nothing to fold

An expression is normal if none of its operators could be computed beforehand: one without variables
below it fails. `IsNormal` says so without mentioning the pass. Folding yields normal expressions
(`isNormal_folded`) and keeps them as they are (`folded_of_isNormal`), so that folding again changes
nothing. On the way no expression gains or loses a variable, a node or a level.
-/

namespace Formulary.Expr

variable {T : Type}

/-! ## Arguments one by one -/

section Arguments

variable {ι : Type} {f g : ι → Expr T} {xs : List ι}

theorem areClosed_map_congr (h : ∀ x ∈ xs, (f x).isClosed = (g x).isClosed) :
    areClosed (xs.map f) = areClosed (xs.map g) := by
  induction xs with
  | nil => rfl
  | cons x xs ih =>
    rw [List.map_cons, List.map_cons, areClosed, areClosed, h x List.mem_cons_self,
      ih fun y hy => h y (List.mem_cons_of_mem _ hy)]

/-- What is no larger one by one has no more nodes altogether. -/
theorem sizes_map_le (h : ∀ x ∈ xs, (f x).size ≤ (g x).size) :
    sizes (xs.map f) ≤ sizes (xs.map g) := by
  induction xs with
  | nil => exact Nat.le_refl _
  | cons x xs ih =>
    have hhead := h x List.mem_cons_self
    have hrest := ih fun y hy => h y (List.mem_cons_of_mem _ hy)
    rw [List.map_cons, List.map_cons, sizes, sizes]
    omega

end Arguments

variable [Numeric T] {functions : FunctionRegistry T} {e : Expr T}

/-! ## What folding keeps and what it shrinks -/

/-- **Folding takes no variable away** and brings none in. -/
theorem isClosed_folded (functions : FunctionRegistry T) (e : Expr T) :
    (folded functions e).isClosed = e.isClosed := by
  refine folded_induction (motive := fun e e' => e'.isClosed = e.isClosed) ?_ ?_ ?_ ?_ ?_ ?_ ?_ ?_ e
  · intro e value hvalue
    rw [hvalue.1, isClosed]
  · intro i
    rfl
  · intro x
    rfl
  · intro name
    rfl
  · intro op left right _ hleft hright
    rw [isClosed, isClosed, hleft, hright]
  · intro operand _ hoperand
    rw [isClosed, isClosed, hoperand]
  · intro op left right _ hleft hright
    rw [isClosed, isClosed, hleft, hright]
  · intro name arguments _ harguments
    have hall := areClosed_map_congr (g := id) harguments
    rw [List.map_id] at hall
    rw [isClosed, isClosed, hall]

/-- **Folding never adds a node.** -/
theorem size_folded_le (functions : FunctionRegistry T) (e : Expr T) :
    (folded functions e).size ≤ e.size := by
  refine folded_induction (motive := fun e e' => e'.size ≤ e.size) ?_ ?_ ?_ ?_ ?_ ?_ ?_ ?_ e
  · intro e value _
    rw [size]
    exact e.size_pos
  · intro i
    exact Nat.le_refl _
  · intro x
    exact Nat.le_refl _
  · intro name
    exact Nat.le_refl _
  · intro op left right _ hleft hright
    rw [size, size]
    omega
  · intro operand _ hoperand
    rw [size, size]
    omega
  · intro op left right _ hleft hright
    rw [size, size]
    omega
  · intro name arguments _ harguments
    have hle := sizes_map_le (g := id) harguments
    rw [List.map_id] at hle
    rw [size, size]
    omega

theorem depth_folded_le (functions : FunctionRegistry T) (e : Expr T) :
    (folded functions e).depth ≤ e.depth := by
  rw [depth_eq_height, depth_eq_height]
  exact height_folded_le functions e

/-! ## Normal expressions -/

/-- An expression that depends on no bindings fails under all of them. -/
def Fails (functions : FunctionRegistry T) (e : Expr T) : Prop :=
  e.isClosed = true → ∃ error, (evaluate functions .empty e).result = .error error

/-- No operator of an expression can be computed beforehand. -/
def IsNormal (functions : FunctionRegistry T) (e : Expr T) : Prop :=
  ∀ part ∈ e.nodes, part.isLeaf = false → Fails functions part

theorem fails_iff : Fails functions e ↔ ∀ value, ¬HasValue functions e value := by
  constructor
  · intro h value hvalue
    obtain ⟨error, herror⟩ := h hvalue.1
    rw [hvalue.2] at herror
    cases herror
  · intro h hclosed
    cases hresult : (evaluate functions .empty e).result with
    | ok value => exact (h value ⟨hclosed, hresult⟩).elim
    | error error => exact ⟨error, rfl⟩

/-- An expression is normal if it is itself and those directly below it are. -/
theorem isNormal_iff : IsNormal functions e ↔
    (e.isLeaf = false → Fails functions e) ∧ ∀ part ∈ e.children, IsNormal functions part := by
  simp only [IsNormal, nodes_eq e, List.forall_mem_cons, List.mem_flatMap, forall_exists_index,
    and_imp]
  exact and_congr_right fun _ =>
    ⟨fun h part hpart below hbelow => h below part hpart hbelow,
      fun h below part hpart hbelow => h part hpart below hbelow⟩

theorem isNormal_of_isLeaf (h : e.isLeaf = true) : IsNormal functions e := by
  refine isNormal_iff.2 ⟨fun hleaf => ?_, ?_⟩
  · rw [h] at hleaf
    cases hleaf
  · cases e with
    | int _ | const _ | var _ => exact nofun
    | _ => cases h

/-- What keeps its place although nothing below it varies fails as it did before. -/
theorem fails_folded (h : ∀ value, ¬HasValue functions e value) :
    Fails functions (folded functions e) := by
  intro hclosed
  rw [isClosed_folded] at hclosed
  rw [result_evaluate_folded]
  exact fails_iff.2 h hclosed

/-- **Folding misses nothing**: every operator that it leaves depends on a variable or fails. -/
theorem isNormal_folded (functions : FunctionRegistry T) (e : Expr T) :
    IsNormal functions (folded functions e) := by
  -- the operator that is kept is the folded expression, whose outcome is known
  refine folded_induction (motive := fun e e' => e' = folded functions e → IsNormal functions e')
    ?_ ?_ ?_ ?_ ?_ ?_ ?_ ?_ e rfl
  · intro e value _ _
    exact isNormal_of_isLeaf rfl
  · intro i _
    exact isNormal_of_isLeaf rfl
  · intro x _
    exact isNormal_of_isLeaf rfl
  · intro name _
    exact isNormal_of_isLeaf rfl
  · intro op left right hnone hleft hright heq
    refine isNormal_iff.2 ⟨fun _ => heq ▸ fails_folded hnone, ?_⟩
    exact List.forall_mem_cons.2 ⟨hleft rfl, List.forall_mem_singleton.2 (hright rfl)⟩
  · intro operand hnone hoperand heq
    refine isNormal_iff.2 ⟨fun _ => heq ▸ fails_folded hnone, ?_⟩
    exact List.forall_mem_singleton.2 (hoperand rfl)
  · intro op left right hnone hleft hright heq
    refine isNormal_iff.2 ⟨fun _ => heq ▸ fails_folded hnone, ?_⟩
    exact List.forall_mem_cons.2 ⟨hleft rfl, List.forall_mem_singleton.2 (hright rfl)⟩
  · intro name arguments hnone harguments heq
    refine isNormal_iff.2 ⟨fun _ => heq ▸ fails_folded hnone, ?_⟩
    exact List.forall_mem_map.2 fun argument hargument => harguments argument hargument rfl

/-- What fails is not replaced. -/
theorem value_valueOr_of_fails (h : Fails functions e) (otherwise : Unit → Traced T (Expr T)) :
    (valueOr functions e otherwise).value = (otherwise ()).value := by
  rcases value_valueOr functions e otherwise with ⟨value, hvalue, -⟩ | ⟨-, heq⟩
  · exact (fails_iff.1 h value hvalue).elim
  · exact heq

/-- **A normal expression is kept as it is.** -/
theorem folded_of_isNormal (h : IsNormal functions e) : folded functions e = e := by
  induction e using induct with
  | int i => rfl
  | const x => rfl
  | var name => rfl
  | binary op left right hleft hright =>
    obtain ⟨hfails, hbelow⟩ := isNormal_iff.1 h
    obtain ⟨hl, hr⟩ := List.forall_mem_cons.1 hbelow
    have hkept : folded functions (binary op left right) =
        binary op (folded functions left) (folded functions right) := by
      rw [folded, fold, value_valueOr_of_fails (hfails rfl)]
      rfl
    rw [hkept, hleft hl, hright (List.forall_mem_singleton.1 hr)]
  | neg operand hoperand =>
    obtain ⟨hfails, hbelow⟩ := isNormal_iff.1 h
    have hkept : folded functions (neg operand) = neg (folded functions operand) := by
      rw [folded, fold, value_valueOr_of_fails (hfails rfl)]
      rfl
    rw [hkept, hoperand (List.forall_mem_singleton.1 hbelow)]
  | compare op left right hleft hright =>
    obtain ⟨hfails, hbelow⟩ := isNormal_iff.1 h
    obtain ⟨hl, hr⟩ := List.forall_mem_cons.1 hbelow
    have hkept : folded functions (compare op left right) =
        compare op (folded functions left) (folded functions right) := by
      rw [folded, fold, value_valueOr_of_fails (hfails rfl)]
      rfl
    rw [hkept, hleft hl, hright (List.forall_mem_singleton.1 hr)]
  | call name arguments harguments =>
    obtain ⟨hfails, hbelow⟩ := isNormal_iff.1 h
    have hkept : folded functions (call name arguments) =
        call name (arguments.map (folded functions)) := by
      rw [folded, fold, value_valueOr_of_fails (hfails rfl), Traced.value_bind, value_foldAll]
      rfl
    have hsame : arguments.map (folded functions) = arguments.map id :=
      List.map_congr_left fun argument hargument => harguments argument hargument
        (hbelow argument hargument)
    rw [hkept, hsame, List.map_id]

/-! ## Folded expressions -/

/-- **Folded expressions are in normal form.** Whatever is left without variables, numbers apart, fails
to evaluate; folding a second time changes nothing; an expression depends on variables as it did before,
and has no more nodes and levels, so that one within the limit stays within it. -/
theorem folded_normalForm (functions : FunctionRegistry T) (e : Expr T) :
    (∀ part ∈ (folded functions e).nodes, part.isClosed = true → part.isLeaf = false →
        ∃ error, (evaluate functions .empty part).result = .error error) ∧
      folded functions (folded functions e) = folded functions e ∧
      (folded functions e).isClosed = e.isClosed ∧
      (folded functions e).size ≤ e.size ∧
      (folded functions e).depth ≤ e.depth ∧
      (e.checkDepth = .ok () → (folded functions e).checkDepth = .ok ()) := by
  have hnormal : IsNormal functions (folded functions e) := isNormal_folded functions e
  refine ⟨?_, folded_of_isNormal hnormal, isClosed_folded functions e,
    size_folded_le functions e, depth_folded_le functions e, checkDepth_folded⟩
  intro part hpart hclosed hleaf
  exact hnormal part hpart hleaf hclosed

/-- In `1 / 0 + 2 * 3` the product is computed, and the quotient is left to fail. -/
theorem folded_normalForm_quotient :
    let e : Expr Fixed := .binary .add (.binary .div (.int 1) (.int 0)) (.binary .mul (.int 2) (.int 3))
    let quotient : Expr Fixed := .binary .div (.int 1) (.int 0)
    folded .empty e = .binary .add quotient (.const (.ofInt32 6)) ∧
      quotient ∈ (folded .empty e).nodes ∧ quotient.isClosed = true ∧ quotient.isLeaf = false ∧
      (∃ error, (evaluate .empty .empty quotient).result = .error error) ∧
      e.checkDepth = .ok () ∧ (folded .empty e).checkDepth = .ok () := by
  intro e quotient
  have hfolded : folded .empty e = .binary .add quotient (.const (.ofInt32 6)) := by rfl
  have hmem : quotient ∈ (folded .empty e).nodes := by
    rw [hfolded]
    exact List.mem_cons_of_mem _ List.mem_cons_self
  have hdepth : e.checkDepth = .ok () := checkDepth_eq_ok.2 (by decide)
  obtain ⟨hnormal, -, -, -, -, hlevels⟩ := folded_normalForm .empty e
  exact ⟨hfolded, hmem, rfl, rfl, hnormal quotient hmem rfl rfl, hdepth, hlevels hdepth⟩

end Formulary.Expr
