import Formulary.Proofs.Evaluation.Outcome
import Formulary.Proofs.Parser.Literal
import Formulary.Proofs.Parser.Reader

/-!
# Proofs/Parser/Completeness — what is derived is accepted

A derived expression is read as it is derived, unless it nests too deep. The statement that carries the
induction speaks of a text that goes on after the expression: reading the whole text is then the same
as going on with operators after the expression, and a following operator decides which expression that
makes it part of.
-/

namespace Formulary.Parser

open Text

/-! ## Unless it nests too deep -/

/-- An outcome is the expected one, or there is a reason why it is too deep. -/
def UnlessDeep {α : Type} (deep : Prop) (outcome expected : Except FormulaError α) : Prop :=
  outcome = expected ∨ (outcome = .error (.tooDeep maxDepth) ∧ deep)

namespace UnlessDeep

variable {α β : Type} {deep deep' : Prop} {x y z : Except FormulaError α}

theorem rfl' : UnlessDeep deep x x :=
  .inl rfl

theorem of_eq (h : x = y) : UnlessDeep deep x y :=
  .inl h

theorem imp (h : UnlessDeep deep x y) (himp : deep → deep') : UnlessDeep deep' x y := by
  rcases h with h | ⟨h, hdeep⟩
  · exact .inl h
  · exact .inr ⟨h, himp hdeep⟩

theorem trans (h : UnlessDeep deep x y) (h' : UnlessDeep deep y z) : UnlessDeep deep x z := by
  rcases h with rfl | h
  · exact h'
  · exact .inr h

/-- What comes after a part that may be too deep. -/
theorem bind {a : α} (h : UnlessDeep deep x (.ok a)) (f : α → Except FormulaError β) :
    UnlessDeep deep (x >>= f) (f a) := by
  rcases h with rfl | ⟨rfl, hdeep⟩
  · exact .inl rfl
  · exact .inr ⟨rfl, hdeep⟩

/-- Checking the depth can only find it too deep. -/
theorem checked {p : Piece α} (hdeep : maxDepth < p.depth → deep) :
    UnlessDeep deep p.checked (.ok p) := by
  rcases Nat.lt_or_ge maxDepth p.depth with hlt | hge
  · exact .inr ⟨Piece.checked_of_lt hlt, hdeep hlt⟩
  · exact .inl (Piece.checked_of_le hge)

end UnlessDeep

/-! ## What may follow -/

/-- What can stand after a complete expression of a stratum: no operator that it would be an operand
of, and no opening parenthesis. -/
structure Follows (k : Stratum) (rest : List Char) : Prop where
  below : Below k.bound rest
  ne_opening : ∀ after, dropBlanks rest ≠ '(' :: after

namespace Follows

variable {k k' : Stratum} {rest : List Char}

theorem mono (h : Follows k rest) (hbound : k.bound ≤ k'.bound) : Follows k' rest :=
  ⟨h.below.mono hbound, h.ne_opening⟩

theorem of_operator {op : Infix} {after : List Char}
    (hop : infix? (dropBlanks rest) = some (op, after)) : Follows op.leftStratum rest := by
  refine ⟨fun op' after' hop' => ?_, fun after' hopening => ?_⟩
  · rw [hop] at hop'
    cases hop'
    exact Infix.left_lt_bound_iff.2 (Nat.le_refl _)
  · rw [hopening] at hop
    cases hop

/-- After a closing parenthesis or a separator, no operator is in sight. -/
theorem of_cons {c : Char} {after : List Char} (hrest : dropBlanks rest = c :: after)
    (hop : infix? (c :: after) = none) (hopening : c ≠ '(') : Follows k rest := by
  refine ⟨below_of_infix?_eq_none (by rw [hrest, hop]), fun after' h => ?_⟩
  rw [hrest] at h
  exact hopening (List.cons.inj h).1

theorem of_nil (hrest : dropBlanks rest = []) : Follows k rest := by
  refine ⟨below_of_infix?_eq_none (by rw [hrest]; rfl), fun after' h => ?_⟩
  rw [hrest] at h
  cases h

end Follows

variable {T : Type} [Numeric T] {ctx : Context T}

/-! ## Expressions read as they are derived -/

/-- Tokens are read as an expression, unless it nests deeper than `n` or has too many levels: reading
goes on with the operators after them. -/
def Reads (ctx : Context T) (n : Nat) (k : Stratum) (ts : List Token) (e : Expr T) : Prop :=
  ∀ (budget strength : Nat) (input rest : List Char), e.validate ctx.functions = .ok () →
    Lexes ctx.locale input ts rest → Follows k rest → strength ≤ k.strength →
      UnlessDeep (budget + 1 < n ∨ maxDepth < e.height)
        ((level ctx (budget + 1)).find strength input)
        (extend (level ctx budget) strength ⟨e, e.height, rest⟩)

/-- A nested expression is found. -/
theorem Reads.find {n : Nat} {k : Stratum} {ts : List Token} {e : Expr T} (h : Reads ctx n k ts e)
    (hn : 0 < n) (budget : Nat) {strength : Nat} {input rest : List Char}
    (hvalid : e.validate ctx.functions = .ok ()) (hlexes : Lexes ctx.locale input ts rest)
    (hrest : Follows k rest) (hstrength : strength ≤ k.strength) (hbelow : Below strength rest) :
    UnlessDeep (budget < n ∨ maxDepth < e.height) ((level ctx budget).find strength input)
      (.ok ⟨e, e.height, dropBlanks rest⟩) := by
  cases budget with
  | zero => exact .inr ⟨find_zero strength input, .inl hn⟩
  | succ budget =>
    have hfind := h budget strength input rest hvalid hlexes hrest hstrength
    rwa [extend_stop (p := ⟨e, e.height, rest⟩) hbelow] at hfind

/-- An expression before a closing parenthesis or a separator is found. -/
theorem Reads.find_before {n : Nat} {ts : List Token} {e : Expr T} (h : Reads ctx n .comparison ts e)
    (hn : 0 < n) (budget : Nat) {input rest after : List Char} {c : Char}
    (hvalid : e.validate ctx.functions = .ok ()) (hlexes : Lexes ctx.locale input ts rest)
    (hrest : dropBlanks rest = c :: after) (hop : infix? (c :: after) = none) (hopening : c ≠ '(') :
    UnlessDeep (budget < n ∨ maxDepth < e.height) ((level ctx budget).find 0 input)
      (.ok ⟨e, e.height, dropBlanks rest⟩) :=
  h.find hn budget hvalid hlexes (.of_cons hrest hop hopening) (Nat.zero_le _)
    (below_of_infix?_eq_none (hrest ▸ hop))

/-- **Operands.** It is enough to find the expression as an operand. -/
theorem unlessDeep_of_operand {deep : Prop} {budget strength depth : Nat} {e : Expr T}
    {input rest rest' : List Char} (hrest : dropBlanks rest' = dropBlanks rest)
    (h : UnlessDeep deep (findOperand ctx (level ctx budget) (dropBlanks input))
      (.ok ⟨e, depth, rest'⟩)) :
    UnlessDeep deep ((level ctx (budget + 1)).find strength input)
      (extend (level ctx budget) strength ⟨e, depth, rest⟩) := by
  rw [find_succ, ← extend_congr hrest]
  exact h.bind _

theorem reads_operator {n : Nat} {op : Infix} {ls rs : List Token} {left right : Expr T}
    (hn : 0 < n) (hleft : Reads ctx (n + 1) op.leftStratum ls left)
    (hright : Reads ctx n op.rightStratum rs right) :
    Reads ctx (n + 1) op.stratum (ls ++ .operator op :: rs) (op.build left right) := by
  intro budget strength input rest hvalid hlexes hrest hstrength
  rw [validate_build] at hvalid
  obtain ⟨_, hvalidl, hvalidr⟩ := bind_eq_ok hvalid
  obtain ⟨middle, hls, hmore⟩ := hlexes.of_append
  obtain ⟨after, hstarts, hrs⟩ := hmore.of_cons
  cases hstarts with
  | operator hop =>
    have hheight := height_build op left right
    have hstrength' : strength ≤ op.left := by rwa [Infix.left_eq_strength]
    have hbelow : Below op.right rest := by
      rw [Infix.right_eq_bound]
      exact hrest.below
    have hleft' := hleft budget strength input middle hvalidl hls (.of_operator hop)
      (Nat.le_trans hstrength (Stratum.strength_mono op.rank_stratum_le))
    have hright' := hright.find hn budget hvalidr hrs
      (hrest.mono op.bound_le_rightStratum) op.right_le_strength hbelow
    -- reading what stands before the operator comes down to going on with the operator itself
    refine (hleft'.imp (by omega)).trans ?_
    rw [extend_step hop hstrength']
    refine ((hright'.imp (by omega)).bind _).trans ?_
    have hdepth : (joined op ⟨left, left.height, middle⟩ ⟨right, right.height, dropBlanks rest⟩).depth =
        (op.build left right).height := by
      rw [hheight, Nat.add_comm]
      rfl
    refine ((UnlessDeep.checked fun h => .inr (hdepth ▸ h)).bind _).trans (.of_eq ?_)
    rw [← hdepth]
    exact extend_congr (dropBlanks_dropBlanks rest)

/-! ## Operands -/

theorem reads_plus {n : Nat} {ts : List Token} {e : Expr T} (hn : 0 < n)
    (h : Reads ctx n .signed ts e) : Reads ctx (n + 1) .signed (.plus :: ts) e := by
  intro budget strength input rest hvalid hlexes hrest _
  obtain ⟨after, hstarts, hts⟩ := hlexes.of_cons
  cases hstarts with
  | operator hop =>
    have hinput := eq_cons_of_infix?_add hop
    have hfind := h.find hn budget hvalid hts hrest (by decide) hrest.below.signStrength
    refine unlessDeep_of_operand (dropBlanks_dropBlanks rest) ?_
    rw [hinput, findOperand, if_neg (by decide), if_pos rfl]
    exact hfind.imp (by omega)

theorem reads_literal {n : Nat} {text : List Char} {e : Expr T} (hfolds : ctx.foldsSign = true)
    (hread : read ctx.locale true text = .ok e) (hzero : e ≠ .int 0) :
    Reads ctx (n + 1) .signed [.minus, .number text] e := by
  intro budget strength input rest _ hlexes hrest _
  obtain ⟨after, hminus, hmore⟩ := hlexes.of_cons
  obtain ⟨after', hnumber, hend⟩ := hmore.of_cons
  cases hminus with
  | operator hop =>
    cases hnumber with
    | number hnumber hscan =>
      have hinput := eq_cons_of_infix?_sub hop
      have hon : (ctx.foldsSign && atNumber ctx.locale (dropBlanks after)) = true := by
        rw [hfolds, hnumber]
        rfl
      have hpower : ∀ after'', dropBlanks after' ≠ '^' :: after'' := by
        rw [hend.eq_of_nil]
        exact hrest.below.ne_power
      rw [height_of_isLeaf (isLeaf_of_read hread)]
      have hrest : dropBlanks (dropBlanks after') = dropBlanks rest := by
        rw [dropBlanks_dropBlanks, hend.eq_of_nil]
      refine unlessDeep_of_operand hrest (.of_eq ?_)
      rw [hinput, findOperand, if_pos rfl, signed_eq hon, hscan, hread]
      change (Except.ok (signTaken e (dropBlanks after')) >>= _) = _
      rw [signTaken_some hzero hpower]
      rfl

theorem reads_group {n : Nat} {ts : List Token} {e : Expr T} (hn : 0 < n)
    (h : Reads ctx n .comparison ts e) :
    Reads ctx (n + 1) .atom (.opening :: (ts ++ [.closing])) e := by
  intro budget strength input rest hvalid hlexes _ _
  obtain ⟨after, hopening, hmore⟩ := hlexes.of_cons
  obtain ⟨middle, hts, hclosing⟩ := hmore.of_append
  obtain ⟨after', hclosing, hend⟩ := hclosing.of_cons
  cases hopening with
  | opening hinput =>
    cases hclosing with
    | closing hmiddle =>
      have hfind := h.find_before hn budget hvalid hts hmiddle rfl (by decide)
      refine unlessDeep_of_operand hend.eq_of_nil ?_
      rw [hinput, findOperand, if_neg (by decide), if_neg (by decide), if_pos rfl]
      refine ((hfind.imp (by omega)).bind _).trans (.of_eq (closed_closing ?_))
      rw [dropBlanks_dropBlanks, hmiddle]

variable (hlocale : ctx.locale.Distinct)
include hlocale

/-- **A sign that does not belong to a number is left to the operand.** The number is read with its
sign at first, which succeeds because it is read without one. -/
theorem signed_eq_none {n : Nat} {ts : List Token} {e : Expr T} {input rest : List Char}
    (h : Derives ctx n .signed ts e) (hsignable : Signable ctx ts) (hsign : ¬TakesSign ctx ts)
    (hlexes : Lexes ctx.locale input ts rest) : signed? ctx input = .ok none := by
  cases hon : ctx.foldsSign && atNumber ctx.locale (dropBlanks input) with
  | false => exact signed_off hon
  | true =>
    obtain ⟨hfolds, hnumber⟩ := Bool.and_eq_true_iff.1 hon
    obtain ⟨t, us, rfl⟩ := List.exists_cons_of_ne_nil h.ne_nil
    obtain ⟨after, hstarts, hmore⟩ := hlexes.of_cons
    obtain ⟨text, rfl, hscan⟩ := hstarts.eq_number hlocale hnumber
    obtain ⟨⟨e', hread⟩, hus⟩ := h.of_number (Nat.le_refl _) rfl
    obtain ⟨literal, hliteral⟩ := hsignable text List.mem_cons_self e' hread
    rw [signed_eq hon, hscan, hliteral]
    change Except.ok (signTaken literal (dropBlanks after)) = _
    -- the number is alone, and then takes no sign because it is zero, or it is the base of a power
    rcases hus with rfl | ⟨vs, rfl⟩
    · have hzero : literal = .int 0 := by
        refine Classical.not_not.1 fun hne => hsign ⟨hfolds, text, rfl, fun h => ?_⟩
        rw [hliteral] at h
        exact hne (Except.ok.inj h)
      rw [hzero]
      rfl
    · obtain ⟨after', hpower, -⟩ := hmore.of_cons
      cases hpower with
      | operator hop => rw [eq_cons_of_infix?_power hop, signTaken_power]

theorem reads_neg {n : Nat} {ts : List Token} {e : Expr T} (hderives : Derives ctx n .signed ts e)
    (hsignable : Signable ctx ts) (hsign : ¬TakesSign ctx ts)
    (h : Reads ctx n .signed ts e) : Reads ctx (n + 1) .signed (.minus :: ts) (.neg e) := by
  intro budget strength input rest hvalid hlexes hrest _
  obtain ⟨after, hminus, hts⟩ := hlexes.of_cons
  cases hminus with
  | operator hop =>
    have hinput := eq_cons_of_infix?_sub hop
    have hheight : (Expr.neg e).height = e.height + 1 := Nat.add_comm _ _
    have hfind := h.find hderives.pos budget hvalid hts hrest (by decide)
      hrest.below.signStrength
    refine unlessDeep_of_operand (dropBlanks_dropBlanks rest) ?_
    rw [hinput, findOperand, if_pos rfl, signed_eq_none hlocale hderives hsignable hsign hts, hheight]
    exact ((hfind.imp (by omega)).bind _).trans (.checked fun h => .inr h)

/-! ## Atoms -/

theorem reads_number {n : Nat} {text : List Char} {e : Expr T}
    (hread : read ctx.locale false text = .ok e) : Reads ctx (n + 1) .atom [.number text] e := by
  intro budget strength input rest _ hlexes _ _
  obtain ⟨after, hstarts, hend⟩ := hlexes.of_cons
  cases hstarts with
  | number hnumber hscan =>
    rw [height_of_isLeaf (isLeaf_of_read hread)]
    refine unlessDeep_of_operand hend.eq_of_nil (.of_eq ?_)
    rw [findOperand_number hlocale hnumber, hscan, hread]
    rfl

/-- A name is read as a name or as a call. -/
theorem findOperand_name {reader : Reader T} {c : Char} {rest : List Char}
    (hc : isNameStart c = true) :
    findOperand ctx reader (c :: rest) = (named ctx reader c rest hc).map Parsed.piece := by
  have hnumber : ¬atNumber ctx.locale (c :: rest) = true := by
    rw [atNumber_eq_false_of_isNameStart hlocale hc]
    exact Bool.false_ne_true
  rw [findOperand, if_neg (ne_of_isNameStart hc rfl), if_neg (ne_of_isNameStart hc rfl),
    if_neg (ne_of_isNameStart hc rfl), if_neg hnumber, dif_pos hc]

theorem reads_name {n : Nat} (name : String) :
    Reads ctx (n + 1) .atom [.name name] (nameExpr ctx name) := by
  intro budget strength input rest _ hlexes hrest _
  obtain ⟨after, hstarts, hend⟩ := hlexes.of_cons
  cases hstarts with
  | name hc hinput =>
    have hend := hend.eq_of_nil
    rw [height_of_isLeaf (isLeaf_nameExpr ctx _)]
    rw [hinput] at hend ⊢
    refine unlessDeep_of_operand (dropBlanks_dropBlanks rest) (.of_eq ?_)
    rw [hinput, findOperand_name hlocale hc, named_alone hc (hend ▸ hrest.ne_opening), hend]

/-! ## Calls -/

/-- **Arguments are read one by one**, up to the closing parenthesis. -/
theorem unlessDeep_arguments {n : Nat} {parts : List (List Token × Expr T)} (hne : parts ≠ [])
    (hn : 0 < n) (hparts : ∀ p ∈ parts, Reads ctx n .comparison p.1 p.2)
    {budget : Nat} {input rest : List Char}
    (hvalid : Expr.validateAll ctx.functions (parts.map (·.2)) = .ok ())
    (hlexes : Lexes ctx.locale input (Token.separated (parts.map (·.1)) ++ [.closing]) rest) :
    ∃ rest', dropBlanks rest' = dropBlanks rest ∧
      UnlessDeep (budget < n ∨ maxDepth < Expr.heights (parts.map (·.2)))
        ((arguments ctx (level ctx budget) input).map Arguments.piece)
        (.ok ⟨parts.map (·.2), Expr.heights (parts.map (·.2)), rest'⟩) := by
  induction parts generalizing input with
  | nil => exact (hne rfl).elim
  | cons p parts ih =>
    obtain ⟨ts, e⟩ := p
    obtain ⟨hp, hparts⟩ := List.forall_mem_cons.1 hparts
    obtain ⟨_, hvalidp, hvalids⟩ := bind_eq_ok hvalid
    have hp : Reads ctx n .comparison ts e := hp
    have hheights : Expr.heights (((ts, e) :: parts).map (·.2)) =
        max e.height (Expr.heights (parts.map (·.2))) := rfl
    cases parts with
    | nil =>
      obtain ⟨middle, hts, hclosing⟩ := hlexes.of_append
      obtain ⟨after, hclosing, hend⟩ := hclosing.of_cons
      cases hclosing with
      | closing hmiddle =>
        have hfind := hp.find_before hn budget hvalidp hts hmiddle rfl (by decide)
        have hrest : dropBlanks (dropBlanks middle) = ')' :: after := by
          rw [dropBlanks_dropBlanks, hmiddle]
        refine ⟨after, hend.eq_of_nil, ?_⟩
        rw [arguments_eq, hheights]
        refine ((hfind.imp (by omega)).bind _).trans (.of_eq ?_)
        rw [furtherArguments_closing hrest (argument_ne_closing hlocale), List.map_nil, Expr.heights,
          Nat.max_zero]
        rfl
    | cons q parts =>
      have hmany : (q :: parts).map (·.1) ≠ [] := List.cons_ne_nil _ _
      rw [List.map_cons, Token.separated_cons hmany, List.append_assoc, List.cons_append] at hlexes
      obtain ⟨middle, hts, hmore⟩ := hlexes.of_append
      obtain ⟨after, hseparator, hmore⟩ := hmore.of_cons
      cases hseparator with
      | separator hmiddle =>
        have hfind := hp.find_before hn budget hvalidp hts hmiddle
          (infix?_argument hlocale after) (argument_ne_opening hlocale)
        obtain ⟨rest', hrest, hrec⟩ := ih (List.cons_ne_nil _ _) hparts hvalids hmore
        have hnext : dropBlanks (dropBlanks middle) = ctx.locale.argument :: after := by
          rw [dropBlanks_dropBlanks, hmiddle]
        refine ⟨rest', hrest, ?_⟩
        rw [arguments_eq, hheights]
        refine ((hfind.imp (by omega)).bind _).trans ?_
        rw [furtherArguments_separator hnext]
        exact ((hrec.imp (by omega)).bind _).trans .rfl'

/-- No argument starts with the end of a call. -/
theorem ne_closing_of_lexes {n : Nat} {k : Stratum} {ts us : List Token} {e : Expr T}
    {input rest : List Char} (h : Derives ctx n k ts e)
    (hlexes : Lexes ctx.locale input (ts ++ us) rest) (after : List Char) :
    dropBlanks input ≠ ')' :: after := by
  intro hclosing
  obtain ⟨t, vs, rfl⟩ := List.exists_cons_of_ne_nil h.ne_nil
  obtain ⟨_, hstarts, -⟩ := hlexes.of_cons
  rw [hclosing] at hstarts
  exact h.head_ne_closing rfl (hstarts.eq_closing hlocale)

theorem unlessDeep_argumentList {n : Nat} {parts : List (List Token × Expr T)}
    (hderives : ∀ p ∈ parts, Derives ctx n .comparison p.1 p.2)
    (hparts : ∀ p ∈ parts, Reads ctx n .comparison p.1 p.2) (budget : Nat) {input rest : List Char}
    (hvalid : Expr.validateAll ctx.functions (parts.map (·.2)) = .ok ())
    (hlexes : Lexes ctx.locale input (Token.separated (parts.map (·.1)) ++ [.closing]) rest) :
    ∃ rest', dropBlanks rest' = dropBlanks rest ∧
      UnlessDeep (budget < n ∨ maxDepth < Expr.heights (parts.map (·.2)))
        ((argumentList ctx (level ctx budget) input).map Arguments.piece)
        (.ok ⟨parts.map (·.2), Expr.heights (parts.map (·.2)), rest'⟩) := by
  cases parts with
  | nil =>
    obtain ⟨after, hclosing, hend⟩ := hlexes.of_cons
    cases hclosing with
    | closing hclosing => exact ⟨after, hend.eq_of_nil, .of_eq (argumentList_none hclosing)⟩
  | cons p parts =>
    have hp := hderives p List.mem_cons_self
    have hclosing : ∀ after, dropBlanks input ≠ ')' :: after := by
      obtain ⟨us, hus⟩ := Token.separated_eq_append p.1 (parts.map (·.1))
      have hfirst := hlexes
      rw [List.map_cons, hus, List.append_assoc] at hfirst
      exact ne_closing_of_lexes hlocale hp hfirst
    rw [argumentList_some hclosing]
    exact unlessDeep_arguments hlocale (List.cons_ne_nil _ _) hp.pos hparts hvalid
      (hlexes.of_dropBlanks (dropBlanks_dropBlanks input))

theorem reads_call {n : Nat} (name : String) {parts : List (List Token × Expr T)}
    (hderives : ∀ p ∈ parts, Derives ctx n .comparison p.1 p.2)
    (hparts : ∀ p ∈ parts, Reads ctx n .comparison p.1 p.2) :
    Reads ctx (n + 1) .atom
      (.name name :: .opening :: (Token.separated (parts.map (·.1)) ++ [.closing]))
      (.call name (parts.map (·.2))) := by
  intro budget strength input rest hvalid hlexes _ _
  obtain ⟨after, hstarts, hmore⟩ := hlexes.of_cons
  obtain ⟨after', hopening, hmore⟩ := hmore.of_cons
  obtain ⟨info, hresolve, hvalids⟩ := bind_eq_ok hvalid
  obtain ⟨rest', hrest, hlist⟩ :=
    unlessDeep_argumentList hlocale hderives hparts budget hvalids hmore
  have hheight : (Expr.call name (parts.map (·.2))).height =
      Expr.heights (parts.map (·.2)) + 1 := Nat.add_comm _ _
  cases hstarts with
  | name hc hinput =>
    cases hopening with
    | opening hafter =>
      rw [hheight]
      refine unlessDeep_of_operand hrest ?_
      rw [hinput] at hafter hresolve ⊢
      rw [findOperand_name hlocale hc, named_call hc hafter]
      refine ((hlist.imp (by omega)).bind _).trans ?_
      -- the call is checked against the functions only after its arguments and its depth
      refine ((UnlessDeep.checked fun h => .inr h).bind _).trans (.of_eq ?_)
      rw [hresolve]
      rfl

/-! ## Whole texts -/

/-- **What is derived is read**, by induction on the derivation. -/
theorem reads_of_derives {n : Nat} {k : Stratum} {ts : List Token} {e : Expr T}
    (h : Derives ctx n k ts e) (hsignable : Signable ctx ts) : Reads ctx n k ts e := by
  induction h with
  | looser hrank _ ih =>
    intro budget strength input rest hvalid hlexes hrest hstrength
    exact ih hsignable budget strength input rest hvalid hlexes
      (hrest.mono (Stratum.bound_mono hrank)) (Nat.le_trans hstrength (Stratum.strength_mono hrank))
  | operator _ hright ihleft ihright =>
    have hls := hsignable.of_subset (List.subset_append_left _ _)
    have hrs := hsignable.of_subset fun t ht =>
      List.mem_append_right _ (List.mem_cons_of_mem _ ht)
    exact reads_operator hright.pos (ihleft hls) (ihright hrs)
  | literal hfolds hread hzero => exact reads_literal hfolds hread hzero
  | neg hsign hderives ih =>
    have hts := hsignable.of_subset (List.subset_cons_self _ _)
    exact reads_neg hlocale hderives hts hsign (ih hts)
  | plus hderives ih =>
    exact reads_plus hderives.pos (ih (hsignable.of_subset (List.subset_cons_self _ _)))
  | number hread => exact reads_number hlocale hread
  | name name => exact reads_name hlocale name
  | call name hderives ih =>
    refine reads_call hlocale name hderives fun p hp => ih p hp (hsignable.of_subset fun t ht => ?_)
    have hmem := Token.subset_separated (List.mem_map_of_mem (f := (·.1)) hp) ht
    exact List.mem_cons_of_mem _ (List.mem_cons_of_mem _ (List.mem_append_left _ hmem))
  | group hderives ih =>
    have hts := hsignable.of_subset fun t ht => List.mem_cons_of_mem _ (List.mem_append_left _ ht)
    exact reads_group hderives.pos (ih hts)

/-- **What is derived from a whole text is accepted**, unless more than `maxDepth` expressions nest or
it has more than `maxDepth` levels. -/
theorem whole_of_derives {n : Nat} {ts : List Token} {e : Expr T} {input : List Char}
    (h : Derives ctx n .comparison ts e) (hsignable : Signable ctx ts)
    (hvalid : e.validate ctx.functions = .ok ()) (hlexes : Lexes ctx.locale input ts []) :
    UnlessDeep (maxDepth < n ∨ maxDepth < e.height) (whole ctx input) (.ok e) := by
  have hblank : dropBlanks input ≠ [] := by
    obtain ⟨t, us, rfl⟩ := List.exists_cons_of_ne_nil h.ne_nil
    obtain ⟨_, hstarts, -⟩ := hlexes.of_cons
    exact hstarts.ne_nil
  have hfind := (reads_of_derives hlocale h hsignable).find h.pos maxDepth hvalid hlexes
    (.of_nil rfl) (Nat.zero_le _) (below_of_infix?_eq_none rfl)
  rw [whole_eq hblank]
  exact (hfind.bind _).trans .rfl'

end Formulary.Parser
