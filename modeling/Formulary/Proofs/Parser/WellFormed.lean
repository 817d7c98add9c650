import Formulary.Proofs.Expr.Nodes
import Formulary.Proofs.Formula.Folding
import Formulary.Proofs.Parser.RoundTrip

/-!
# Proofs/Parser/WellFormed — what can be said of an accepted expression

The parser counts the levels of an expression while it reads, and its budget counts something else: how
deep readers nest. Whatever it accepts has the depth it counted (`depth_of_level`), calls that resolve,
and no variable that is not an identifier or that a constant stands for. So it can be built as it is,
or folded without another look at its depth.
-/

namespace Formulary.Parser

open Text

variable {T : Type}

/-! ## Names in a text -/

theorem Starts.isIdentifier {locale : Locale} {cs after : List Char} {name : String}
    (h : Starts locale cs (.name name) after) : Expr.IsIdentifier name := by
  cases h with
  | @name c rest hc hcs =>
    refine ⟨c, rest.takeWhile isNameChar, ?_, hc, List.all_takeWhile⟩
    rw [String.toList_ofList, hcs, List.takeWhile_cons_of_pos (isNameChar_of_isNameStart hc)]

/-- The names among the tokens of a text are identifiers. -/
theorem Lexes.isIdentifier {locale : Locale} {input rest : List Char} {ts : List Token} {name : String}
    (h : Lexes locale input ts rest) (hname : .name name ∈ ts) : Expr.IsIdentifier name := by
  induction h with
  | done => cases hname
  | cons hstarts _ ih =>
    rcases List.mem_cons.1 hname with rfl | hname
    · exact hstarts.isIdentifier
    · exact ih hname

/-! ## Variables of what is derived -/

theorem variableNames_build (op : Infix) (left right : Expr T) :
    (op.build left right).variableNames = left.variableNames ++ right.variableNames := by
  cases op <;> exact List.filterMap_append

theorem exists_of_mem_variableNames_call {function name : String} {arguments : List (Expr T)}
    (h : name ∈ (Expr.call function arguments).variableNames) :
    ∃ a ∈ arguments, name ∈ a.variableNames := by
  obtain ⟨a, ha, hname⟩ : ∃ a ∈ arguments, Expr.var name ∈ a.nodes := by
    have hnodes := Expr.mem_variableNames.1 h
    simpa [Expr.nodes, Expr.nodesAll_eq] using hnodes
  exact ⟨a, ha, Expr.mem_variableNames.2 hname⟩

variable [Numeric T]

theorem variableNames_of_read {locale : Locale} {negative : Bool} {text : List Char} {e : Expr T}
    (h : read locale negative text = .ok e) : e.variableNames = [] := by
  obtain ⟨_, -, ⟨_, -, -, rfl⟩ | ⟨-, _, -, rfl⟩⟩ := exists_of_read h
  · rfl
  · rfl

/-- **Variables are written as names**, none of which a constant stands for. -/
theorem Derives.variables {ctx : Context T} {n : Nat} {k : Stratum} {ts : List Token} {e : Expr T}
    (h : Derives ctx n k ts e) {name : String} (hname : name ∈ e.variableNames) :
    .name name ∈ ts ∧ ctx.constants.protected? name = none := by
  induction h with
  | looser _ _ ih => exact ih hname
  | operator _ _ ihleft ihright =>
    rw [variableNames_build] at hname
    rcases List.mem_append.1 hname with hname | hname
    · exact (ihleft hname).imp_left fun h => List.mem_append_left _ h
    · exact (ihright hname).imp_left fun h => List.mem_append_right _ (List.mem_cons_of_mem _ h)
  | literal _ hread =>
    rw [variableNames_of_read hread] at hname
    cases hname
  | neg _ _ ih => exact (ih hname).imp_left fun h => List.mem_cons_of_mem _ h
  | plus _ ih => exact (ih hname).imp_left fun h => List.mem_cons_of_mem _ h
  | number hread =>
    rw [variableNames_of_read hread] at hname
    cases hname
  | name written =>
    cases hconstant : ctx.constants.protected? written with
    | some info =>
      rw [nameExpr, hconstant] at hname
      cases hname
    | none =>
      rw [nameExpr, hconstant] at hname
      obtain rfl : name = written := List.mem_singleton.1 hname
      exact ⟨List.mem_cons_self, hconstant⟩
  | call function _ ih =>
    obtain ⟨a, ha, hname⟩ := exists_of_mem_variableNames_call hname
    obtain ⟨part, hpart, rfl⟩ := List.mem_map.1 ha
    refine (ih part hpart hname).imp_left fun h => ?_
    have hrow := Token.subset_separated (List.mem_map_of_mem hpart) h
    exact List.mem_cons_of_mem _ (List.mem_cons_of_mem _ (List.mem_append_left _ hrow))
  | group _ ih =>
    exact (ih hname).imp_left fun h => List.mem_cons_of_mem _ (List.mem_append_left _ h)

/-! ## Counted levels -/

omit [Numeric T] in
theorem find_of_level {reader : Reader T} {strength : Nat} {input : List Char}
    {p : Parsed T input.length} (h : reader strength input = .ok p) :
    reader.find strength input = .ok p.piece := by
  rw [Reader.find, h]
  rfl

/-- **The levels that the parser counts are the levels of what it has read**, at every point. -/
theorem depth_of_level {ctx : Context T} {budget strength : Nat} {input : List Char}
    {p : Parsed T input.length} (h : level ctx budget strength input = .ok p) :
    p.depth = p.expr.depth ∧ p.depth ≤ maxDepth := by
  obtain ⟨hsound, -⟩ := soundReader_level ctx budget _ _ _ (find_of_level h)
  exact ⟨hsound.depth_eq.trans (Expr.depth_eq_height _).symm, hsound.depth_le⟩

theorem exists_level_of_whole {ctx : Context T} {input : List Char} {e : Expr T}
    (h : whole ctx input = .ok e) : ∃ p, level ctx maxDepth 0 input = .ok p ∧ p.expr = e := by
  unfold whole at h
  split at h
  · cases h
  cases hlevel : level ctx maxDepth 0 input with
  | error error =>
    rw [hlevel] at h
    cases h
  | ok p =>
    rw [hlevel] at h
    dsimp only at h
    split at h
    · cases h
      exact ⟨p, rfl, rfl⟩
    · cases h

/-! ## Accepted expressions -/

/-- **What the parser accepts can be built.** The depth of the expression is the one that was counted
while it was read, and within the limit; its calls resolve; its variables are identifiers that no
constant stands for. So every backend builds it, as it is or folded: the only error that a build may
still end with is a stack program that is too large, for a pool or a list of arguments that is too long
for an operand. -/
theorem parse_wellFormed {locale : Locale} {functions : FunctionRegistry T}
    {constants : ConstantRegistry T} {text : String} {t : Expr T}
    (h : parse locale functions constants text = .ok t) :
    (∃ p, level (formulaContext locale functions constants text) maxDepth 0 text.toList = .ok p ∧
        p.expr = t ∧ p.depth = t.depth) ∧
      t.depth ≤ maxDepth ∧
      t.checkDepth = .ok () ∧
      t.validate functions = .ok () ∧
      (∀ name ∈ t.variableNames, Expr.IsIdentifier name ∧ constants.protected? name = none) ∧
      ∀ (backend : Backend) (e : Expr T), e = t ∨ e = Expr.folded functions t →
        (∃ evaluator, backend.build functions e = .ok evaluator) ∨
          backend = .bytecode ∧
            backend.build functions e = .error (.programTooLarge maxOperand) ∧
              e.Oversized functions := by
  have hwhole : whole (formulaContext locale functions constants text) text.toList = .ok t := h
  obtain ⟨p, hlevel, rfl⟩ := exists_level_of_whole hwhole
  obtain ⟨hdepth, hle⟩ := depth_of_level hlevel
  obtain ⟨⟨n, ts, hlexes, hderives⟩, hvalid, hheight⟩ := sound_whole hwhole
  have hcheck : p.expr.checkDepth = .ok () := Expr.checkDepth_eq_ok.2 hheight
  refine ⟨⟨p, hlevel, rfl, hdepth⟩, hdepth ▸ hle, hcheck, hvalid, ?_, ?_⟩
  · intro name hname
    obtain ⟨hmem, hconstant⟩ := hderives.variables hname
    exact ⟨hlexes.isIdentifier hmem, hconstant⟩
  · rintro backend e (rfl | rfl)
    · exact backend.build_of_valid hcheck hvalid
    · have hfolded := (Expr.validate_folded functions p.expr).trans hvalid
      exact backend.build_of_valid (Expr.checkDepth_folded hcheck) hfolded

/-- The program of a product of two powers can be built. -/
theorem parse_wellFormed_product :
    let t : Expr Fixed := .binary .mul (.binary .power (.var "x") (.int 2)) (.neg (.var "y"))
    parse .english ∅ ∅ "x ^ 2 * -y" = .ok t ∧ t.depth ≤ maxDepth ∧
      ∀ name ∈ t.variableNames, Expr.IsIdentifier name := by
  intro t
  have hparse : parse .english ∅ ∅ "x ^ 2 * -y" = .ok t := by cbv
  obtain ⟨-, hdepth, -, -, hvariables, -⟩ := parse_wellFormed hparse
  exact ⟨hparse, hdepth, fun name hname => (hvariables name hname).1⟩

end Formulary.Parser
