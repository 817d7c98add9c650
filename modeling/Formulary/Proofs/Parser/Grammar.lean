import Formulary.Evaluation.Walk
import Formulary.Expr.Depth
import Formulary.Proofs.Parser.Token

/-!
# Proofs/Parser/Grammar — the grammar of formulas

Formulas are comparisons of sums of products of signed powers of atoms, and `Derives` says which rows
of tokens denote which expressions in each of these strata. Comparisons, sums and products group to
the left, powers to the right. The parser knows none of this: it compares how strongly operators bind.
What its numbers mean for the strata is said once, in the last section.
-/

namespace Formulary.Parser

open Text

/-! ## Strata -/

/-- The parts of the grammar, from the loosest to the tightest. -/
inductive Stratum where
  | comparison
  | sum
  | product
  | signed
  | power
  | atom
deriving DecidableEq

/-- How tight a stratum is. -/
def Stratum.rank : Stratum → Nat
  | comparison => 0
  | sum => 1
  | product => 2
  | signed => 3
  | power => 4
  | atom => 5

namespace Infix

/-- The stratum of expressions with an operator at their root. -/
def stratum : Infix → Stratum
  | compare _ => .comparison
  | binary .add | binary .sub => .sum
  | binary .mul | binary .div | binary .mod => .product
  | binary .power => .power

/-- The stratum of what stands before an operator. -/
def leftStratum : Infix → Stratum
  | compare _ => .comparison
  | binary .add | binary .sub => .sum
  | binary .mul | binary .div | binary .mod => .product
  | binary .power => .atom

/-- The stratum of what stands after an operator. -/
def rightStratum : Infix → Stratum
  | compare _ => .sum
  | binary .add | binary .sub => .product
  | binary .mul | binary .div | binary .mod => .signed
  | binary .power => .signed

end Infix

/-! ## Derivations -/

namespace Token

/-- The minus sign, which is an operator between operands and a sign before one. -/
def minus : Token := .operator (.binary .sub)

def plus : Token := .operator (.binary .add)

/-- Rows of tokens with separators between them. -/
def separated : List (List Token) → List Token
  | [] => []
  | [ts] => ts
  | ts :: more => ts ++ .separator :: separated more

theorem separated_cons {ts : List Token} {more : List (List Token)} (h : more ≠ []) :
    separated (ts :: more) = ts ++ .separator :: separated more := by
  cases more with
  | nil => exact (h rfl).elim
  | cons us more => rfl

/-- The first row comes first. -/
theorem separated_eq_append (ts : List Token) (more : List (List Token)) :
    ∃ us, separated (ts :: more) = ts ++ us := by
  cases more with
  | nil => exact ⟨[], (List.append_nil ts).symm⟩
  | cons us more => exact ⟨_, rfl⟩

theorem subset_separated {ts : List Token} {rows : List (List Token)} (h : ts ∈ rows) :
    ts ⊆ separated rows := by
  induction rows with
  | nil => cases h
  | cons us more ih =>
    rcases List.mem_cons.1 h with rfl | h
    · obtain ⟨vs, hvs⟩ := separated_eq_append ts more
      rw [hvs]
      exact List.subset_append_left ts vs
    · rw [separated_cons (List.ne_nil_of_mem h)]
      exact fun t ht => List.mem_append_right us (List.mem_cons_of_mem _ (ih h ht))

theorem exists_of_mem_separated {t : Token} {rows : List (List Token)} (h : t ∈ separated rows)
    (ht : t ≠ .separator) : ∃ ts ∈ rows, t ∈ ts := by
  induction rows with
  | nil => cases h
  | cons us more ih =>
    by_cases hmore : more = []
    · subst hmore
      exact ⟨us, List.mem_singleton_self us, h⟩
    · rw [separated_cons hmore] at h
      rcases List.mem_append.1 h with h | h
      · exact ⟨us, List.mem_cons_self, h⟩
      · obtain ⟨ts, hts, hmem⟩ := ih ((List.mem_cons.1 h).resolve_left ht)
        exact ⟨ts, List.mem_cons_of_mem _ hts, hmem⟩

end Token

variable {T : Type} [Numeric T]

/-- A minus sign before these tokens becomes part of them: they are a number and nothing else. An
integer zero takes no sign. -/
def TakesSign (ctx : Context T) (ts : List Token) : Prop :=
  ctx.foldsSign = true ∧
    ∃ text, ts = [.number text] ∧ (read ctx.locale true text : Except _ (Expr T)) ≠ .ok (.int 0)

/-- Tokens denote an expression of a stratum in which at most so many expressions nest: an expression
nests one deeper where it stands after an operator or a sign, in parentheses or among arguments. -/
inductive Derives (ctx : Context T) : Nat → Stratum → List Token → Expr T → Prop where
  /-- Every stratum contains the tighter ones. -/
  | looser {n : Nat} {k k' : Stratum} {ts : List Token} {e : Expr T} :
    k.rank ≤ k'.rank → Derives ctx n k' ts e → Derives ctx n k ts e
  | operator {n : Nat} {op : Infix} {ls rs : List Token} {left right : Expr T} :
    Derives ctx (n + 1) op.leftStratum ls left → Derives ctx n op.rightStratum rs right →
      Derives ctx (n + 1) op.stratum (ls ++ .operator op :: rs) (op.build left right)
  /-- A number with its sign. -/
  | literal {n : Nat} {text : List Char} {e : Expr T} :
    ctx.foldsSign = true → read ctx.locale true text = .ok e → e ≠ .int 0 →
      Derives ctx (n + 1) .signed [.minus, .number text] e
  | neg {n : Nat} {ts : List Token} {e : Expr T} :
    ¬TakesSign ctx ts → Derives ctx n .signed ts e →
      Derives ctx (n + 1) .signed (.minus :: ts) (.neg e)
  /-- A plus sign changes nothing. -/
  | plus {n : Nat} {ts : List Token} {e : Expr T} :
    Derives ctx n .signed ts e → Derives ctx (n + 1) .signed (.plus :: ts) e
  | number {n : Nat} {text : List Char} {e : Expr T} :
    read ctx.locale false text = .ok e → Derives ctx (n + 1) .atom [.number text] e
  | name {n : Nat} (name : String) : Derives ctx (n + 1) .atom [.name name] (nameExpr ctx name)
  | call {n : Nat} (name : String) {parts : List (List Token × Expr T)} :
    (∀ p ∈ parts, Derives ctx n .comparison p.1 p.2) →
      Derives ctx (n + 1) .atom
        (.name name :: .opening :: (Token.separated (parts.map (·.1)) ++ [.closing]))
        (.call name (parts.map (·.2)))
  | group {n : Nat} {ts : List Token} {e : Expr T} :
    Derives ctx n .comparison ts e → Derives ctx (n + 1) .atom (.opening :: (ts ++ [.closing])) e

/-- A whole text denotes an expression, with at most so many expressions nested. -/
def DenotesWithin (ctx : Context T) (n : Nat) (text : List Char) (e : Expr T) : Prop :=
  ∃ ts, Lexes ctx.locale text ts [] ∧ Derives ctx n .comparison ts e

/-- A whole text denotes an expression. -/
def Denotes (ctx : Context T) (text : List Char) (e : Expr T) : Prop :=
  ∃ n, DenotesWithin ctx n text e

namespace Derives

variable {ctx : Context T} {n : Nat} {k : Stratum} {ts : List Token} {e : Expr T}

/-- Every expression takes part in the nesting. -/
theorem pos (h : Derives ctx n k ts e) : 0 < n := by
  induction h with
  | looser _ _ ih => exact ih
  | _ => exact Nat.succ_pos _

theorem ne_nil (h : Derives ctx n k ts e) : ts ≠ [] := by
  induction h with
  | looser _ _ ih => exact ih
  | operator _ _ _ _ => exact List.append_ne_nil_of_right_ne_nil _ (List.cons_ne_nil _ _)
  | _ => exact List.cons_ne_nil _ _

theorem head_ne_closing (h : Derives ctx n k ts e) {t : Token} {us : List Token}
    (hts : ts = t :: us) : t ≠ .closing := by
  induction h generalizing us with
  | looser _ _ ih => exact ih hts
  | @operator n op ls rs left right hleft _ ih _ =>
    cases ls with
    | nil => exact absurd rfl hleft.ne_nil
    | cons u ls =>
      cases hts
      exact ih rfl
  | _ =>
    cases hts
    exact nofun

/-- **Numbers in front of an operand.** An operand that starts with a number is that number, or a power
of it. -/
theorem of_number (h : Derives ctx n k ts e) (hk : Stratum.signed.rank ≤ k.rank) {text : List Char}
    {us : List Token} (hts : ts = .number text :: us) :
    (∃ e', (read ctx.locale false text : Except _ (Expr T)) = .ok e') ∧
      (us = [] ∨ ∃ vs, us = .operator (.binary .power) :: vs) := by
  induction h generalizing us with
  | looser hrank _ ih => exact ih (Nat.le_trans hk hrank) hts
  | @operator n op ls rs left right hleft hright ihleft _ =>
    have hpower : op = .binary .power := by
      rcases op with op | op <;> cases op <;> first | rfl | exact absurd hk (by decide)
    subst hpower
    cases ls with
    | nil => exact absurd rfl hleft.ne_nil
    | cons t ls =>
      cases hts
      obtain ⟨hread, hls⟩ := ihleft (by decide) rfl
      refine ⟨hread, .inr ?_⟩
      rcases hls with rfl | ⟨vs, rfl⟩
      · exact ⟨rs, rfl⟩
      · exact ⟨_, rfl⟩
  | @number n text' e hread =>
    cases hts
    exact ⟨⟨e, hread⟩, .inl rfl⟩
  | _ => cases hts

end Derives

/-! ## Leaves -/

omit [Numeric T] in
theorem isLeaf_nameExpr (ctx : Context T) (name : String) : (nameExpr ctx name).isLeaf = true := by
  unfold nameExpr
  split <;> rfl

/-- A number is read as an integer if it is one of 32 bits, and as a constant otherwise. -/
theorem exists_of_read {locale : Locale} {negative : Bool} {text : List Char} {e : Expr T}
    (h : read locale negative text = .ok e) :
    ∃ canonical, locale.normalize text = some canonical ∧
      ((∃ i, allDigits canonical = true ∧
          readInt32? (if negative then '-' :: canonical else canonical) = some i ∧
          e = .int (Int32.ofInt i)) ∨
        ((allDigits canonical = true →
            readInt32? (if negative then '-' :: canonical else canonical) = none) ∧
          ∃ x, Numeric.ofCanonical? (if negative then '-' :: canonical else canonical) = some x ∧
            e = .const x)) := by
  unfold read at h
  split at h
  · cases h
  next canonical hcanonical =>
  refine ⟨canonical, hcanonical, ?_⟩
  dsimp only at h
  split at h
  · next i hint =>
    cases h
    split at hint
    · next hdigits => exact .inl ⟨i, hdigits, hint, rfl⟩
    · cases hint
  next hint =>
  split at h
  · next x hx =>
    cases h
    exact .inr ⟨fun hdigits => (if_pos hdigits).symm.trans hint, x, hx, rfl⟩
  · cases h

theorem isLeaf_of_read {locale : Locale} {negative : Bool} {text : List Char} {e : Expr T}
    (h : read locale negative text = .ok e) : e.isLeaf = true := by
  obtain ⟨_, -, ⟨_, -, -, rfl⟩ | ⟨-, _, -, rfl⟩⟩ := exists_of_read h
  · rfl
  · rfl

omit [Numeric T] in
theorem height_of_isLeaf {e : Expr T} (h : e.isLeaf = true) : e.height = 1 := by
  cases e <;> first | rfl | cases h

omit [Numeric T] in
theorem validate_of_isLeaf {functions : FunctionRegistry T} {e : Expr T} (h : e.isLeaf = true) :
    e.validate functions = .ok () := by
  cases e <;> first | rfl | cases h

/-! ## Operands of an operator -/

omit [Numeric T] in
theorem height_build (op : Infix) (left right : Expr T) :
    (op.build left right).height = 1 + max left.height right.height := by
  cases op <;> rfl

omit [Numeric T] in
theorem validate_build (functions : FunctionRegistry T) (op : Infix) (left right : Expr T) :
    (op.build left right).validate functions =
      (left.validate functions >>= fun _ => right.validate functions) := by
  cases op <;> rfl

/-! ## Strata as strengths -/

namespace Stratum

/-- An operator that binds less than this can stand after an expression of a stratum. -/
def bound : Stratum → Nat
  | comparison => 2
  | sum => 4
  | product => 6
  | signed | power => 9
  | atom => 10

/-- Expressions of a stratum are read in full where operators have to bind at most this strongly. -/
def strength : Stratum → Nat
  | comparison => 1
  | sum => 3
  | product => 5
  | signed | power | atom => 9

/-- The loosest stratum that can be read where operators have to bind this strongly. -/
def ofStrength (n : Nat) : Stratum :=
  if n ≤ 1 then comparison else if n ≤ 3 then sum else if n ≤ 5 then product else signed

theorem bound_mono {k k' : Stratum} (h : k.rank ≤ k'.rank) : k.bound ≤ k'.bound := by
  cases k <;> cases k' <;> revert h <;> decide

theorem strength_mono {k k' : Stratum} (h : k.rank ≤ k'.rank) : k.strength ≤ k'.strength := by
  cases k <;> cases k' <;> revert h <;> decide

theorem rank_ofStrength (n : Nat) :
    (ofStrength n).rank = if n ≤ 1 then 0 else if n ≤ 3 then 1 else if n ≤ 5 then 2 else 3 := by
  unfold ofStrength
  rw [apply_ite rank, apply_ite rank, apply_ite rank]
  rfl

theorem rank_ofStrength_le_signed (n : Nat) : (ofStrength n).rank ≤ signed.rank := by
  rw [rank_ofStrength, rank]
  split <;> (try split) <;> (try split) <;> omega

theorem rank_ofStrength_mono {m n : Nat} (h : m ≤ n) : (ofStrength m).rank ≤ (ofStrength n).rank := by
  rw [rank_ofStrength, rank_ofStrength]
  grind

end Stratum

namespace Infix

/-- An operator takes what stands before it exactly if that is tight enough. -/
theorem left_lt_bound_iff {op : Infix} {k : Stratum} :
    op.left < k.bound ↔ op.leftStratum.rank ≤ k.rank := by
  rcases op with op | op <;> cases op <;> cases k <;> decide

theorem left_eq_strength (op : Infix) : op.left = op.stratum.strength := by
  rcases op with op | op <;> cases op <;> rfl

theorem right_eq_bound (op : Infix) : op.right = op.stratum.bound := by
  rcases op with op | op <;> cases op <;> rfl

theorem rank_stratum_le (op : Infix) : op.stratum.rank ≤ op.leftStratum.rank := by
  rcases op with op | op <;> cases op <;> decide

theorem ofStrength_right (op : Infix) : Stratum.ofStrength op.right = op.rightStratum := by
  rcases op with op | op <;> cases op <;> rfl

theorem right_le_strength (op : Infix) : op.right ≤ op.rightStratum.strength := by
  rcases op with op | op <;> cases op <;> decide

theorem bound_le_rightStratum (op : Infix) : op.stratum.bound ≤ op.rightStratum.bound := by
  rcases op with op | op <;> cases op <;> decide

/-- No operator binds as strongly as a sign or a little more. -/
theorem left_lt_signStrength {op : Infix} (h : op.left < Stratum.signed.bound) :
    op.left < signStrength := by
  rcases op with op | op <;> cases op <;> revert h <;> decide

theorem left_lt_ten (op : Infix) : op.left < Stratum.atom.bound := by
  rcases op with op | op <;> cases op <;> decide

/-- An expression with an operator at its root is tight enough wherever the operator binds strongly
enough. -/
theorem rank_ofStrength_le {op : Infix} {n : Nat} (h : n ≤ op.left) :
    (Stratum.ofStrength n).rank ≤ op.stratum.rank := by
  refine Nat.le_trans (Stratum.rank_ofStrength_mono h) ?_
  rcases op with op | op <;> cases op <;> decide

end Infix

end Formulary.Parser
