import Formulary.Proofs.Evaluation.Rewrites
import Formulary.Proofs.Expr.Nodes
import Formulary.Proofs.Number.Symmetric
import Formulary.Proofs.Parser.Acceptance

/-!
# Proofs/Parser/Signs — numbers that take a sign

A minus sign before a number becomes part of the number, unless a power follows or the number is an
integer zero. The parser could do without: then every minus sign would negate what stands after it.
Whatever it would accept it does accept, and the expressions differ in nothing but negated numbers
(`exists_derives_folding`). These have the value of the numbers with their signs, provided that the
number type is `SignSymmetric`.
-/

namespace Formulary

open Text

variable {T : Type} [Numeric T]

/-! ## Negated numbers -/

/-- The negation of a number, and the negative number. -/
inductive Expr.Signs : Expr T → Expr T → Prop where
  | literal {e e' : Expr T} {x y : T} : e.asLiteral? = some x → e'.asLiteral? = some y →
    Numeric.neg x = .ok y → Signs (.neg e) e'

namespace Expr

variable {e e' : Expr T} {x : T}

theorem isLeaf_of_asLiteral? (h : e.asLiteral? = some x) : e.isLeaf = true := by
  cases e <;> first | rfl | cases h

theorem evaluate_of_asLiteral? (h : e.asLiteral? = some x) (functions : FunctionRegistry T)
    (bindings : Bindings T) : e.evaluate functions bindings = pure x := by
  cases e with
  | int i => cases h; rw [evaluate]
  | const x => cases h; rw [evaluate]
  | _ => cases h

namespace Signs

theorem height_le (h : Signs e e') : e'.height ≤ e.height := by
  cases h with
  | literal _ hnumber _ =>
    rw [Parser.height_of_isLeaf (isLeaf_of_asLiteral? hnumber), height]
    exact Nat.le_add_right _ _

theorem validate_eq {functions : FunctionRegistry T} (h : Signs e e') :
    e'.validate functions = e.validate functions := by
  cases h with
  | literal hoperand hnumber _ =>
    rw [Parser.validate_of_isLeaf (isLeaf_of_asLiteral? hnumber), validate,
      Parser.validate_of_isLeaf (isLeaf_of_asLiteral? hoperand)]

theorem result_eq {functions : FunctionRegistry T} {bindings : Bindings T} (h : Signs e e') :
    (e'.evaluate functions bindings).result = (e.evaluate functions bindings).result := by
  cases h with
  | literal hoperand hnumber hneg =>
    rw [evaluate_of_asLiteral? hnumber, evaluate, evaluate_of_asLiteral? hoperand, pure_bind, hneg]
    rfl

end Signs

omit [Numeric T] in
theorem Rewrites.build {rule : Expr T → Expr T → Prop} {left left' right right' : Expr T}
    (op : Parser.Infix) (hleft : Rewrites rule left left') (hright : Rewrites rule right right') :
    Rewrites rule (op.build left right) (op.build left' right') := by
  cases op with
  | binary op => exact .binary op hleft hright
  | compare op => exact .compare op hleft hright

end Expr

namespace Parser

/-! ## Numbers read with their sign -/

/-- **A number read with its sign is the negative of the number read without.** -/
theorem signs_of_read [SignSymmetric T] {locale : Locale} {text : List Char} {e e' : Expr T}
    (htext : StopsAt isSign (dropBlanks text)) (h : read locale false text = .ok e)
    (h' : read locale true text = .ok e') (hzero : e' ≠ .int 0) : Expr.Signs (.neg e) e' := by
  obtain ⟨canonical, hcanonical, hread⟩ := exists_of_read h
  obtain ⟨canonical', hcanonical', hread'⟩ := exists_of_read h'
  rw [hcanonical, Option.some.injEq] at hcanonical'
  subst hcanonical'
  have hsign := Locale.stopsAt_of_normalize htext hcanonical
  simp only [Bool.false_eq_true, if_false, if_true] at hread hread'
  rcases hread with ⟨i, hdigits, hi, rfl⟩ | ⟨hnone, x, hx, rfl⟩
  · rcases hread' with ⟨j, -, hj, rfl⟩ | ⟨hnone', -⟩
    · obtain ⟨hlow, hhigh⟩ := nonneg_of_readInt32? hsign hi
      obtain ⟨n, rfl⟩ := Int.eq_ofNat_of_zero_le hlow
      rw [readInt32?_minus hsign hi, Option.some.injEq] at hj
      subst hj
      have hpos : 0 < n := by
        refine Nat.pos_of_ne_zero fun hn => hzero ?_
        rw [hn]
        rfl
      exact .literal rfl rfl (SignSymmetric.neg_ofInt32 hpos (by omega))
    · have hi' := readInt32?_minus hsign hi
      rw [hnone' hdigits] at hi'
      cases hi'
  · rcases hread' with ⟨j, hdigits, hj, rfl⟩ | ⟨-, y, hy, rfl⟩
    · obtain ⟨hvalue, rfl⟩ := eq_of_readInt32?_minus hsign (hnone hdigits) hj
      exact .literal rfl rfl (SignSymmetric.neg_of_digits hdigits hvalue hx)
    · exact .literal rfl rfl (SignSymmetric.neg_ofCanonical? hsign hx hy)

/-! ## Derivations -/

/-- A number by itself is derived as it is read. -/
theorem Derives.read_eq {ctx : Context T} {n : Nat} {k : Stratum} {text : List Char} {e : Expr T}
    (h : Derives ctx n k [.number text] e) : read ctx.locale false text = .ok e := by
  generalize hts : [Token.number text] = ts at h
  induction h with
  | looser _ _ ih => exact ih hts
  | @operator n op ls rs left right hleft _ _ _ =>
    obtain ⟨t, us, rfl⟩ := List.exists_cons_of_ne_nil hleft.ne_nil
    have hrest := (List.cons.inj hts).2
    exact absurd hrest.symm (List.append_ne_nil_of_right_ne_nil us (List.cons_ne_nil _ rs))
  | number hread =>
    cases hts
    exact hread
  | _ => cases hts

/-- The context in which numbers take the sign before them. -/
def Context.folding (ctx : Context T) : Context T :=
  { ctx with foldsSign := true }

theorem exists_derives_folding [SignSymmetric T] {ctx : Context T} (hoff : ctx.foldsSign = false)
    {n : Nat} {k : Stratum} {ts : List Token} {e : Expr T} (h : Derives ctx n k ts e)
    (hsignless : Signless ts) :
    ∃ e', Derives ctx.folding n k ts e' ∧ e.Rewrites Expr.Signs e' := by
  induction h with
  | looser hrank _ ih =>
    obtain ⟨e', hderives, hrewrites⟩ := ih hsignless
    exact ⟨e', .looser hrank hderives, hrewrites⟩
  | @operator n op ls rs left right _ _ ihleft ihright =>
    obtain ⟨left', hleft, hl⟩ := ihleft (hsignless.of_subset (List.subset_append_left _ _))
    obtain ⟨right', hright, hr⟩ := ihright (hsignless.of_subset fun t ht =>
      List.mem_append_right _ (List.mem_cons_of_mem _ ht))
    exact ⟨_, .operator hleft hright, .build op hl hr⟩
  | literal hfolds =>
    rw [hoff] at hfolds
    cases hfolds
  | @neg n ts e _ hderives ih =>
    have hts := hsignless.of_subset (List.subset_cons_self _ _)
    obtain ⟨e', hderives', hrewrites⟩ := ih hts
    by_cases hsign : TakesSign ctx.folding ts
    · obtain ⟨hfolds, text, rfl, hzero⟩ := hsign
      have htext := hts text List.mem_cons_self
      have hread := hderives.read_eq
      obtain ⟨number, hnumber⟩ := read_minus htext hread
      have hne : number ≠ .int 0 := fun heq => hzero (heq ▸ hnumber)
      exact ⟨number, .literal hfolds hnumber hne, .rule (signs_of_read htext hread hnumber hne)⟩
    · exact ⟨.neg e', .neg hsign hderives', .neg hrewrites⟩
  | plus _ ih =>
    obtain ⟨e', hderives, hrewrites⟩ := ih (hsignless.of_subset (List.subset_cons_self _ _))
    exact ⟨e', .plus hderives, hrewrites⟩
  | number hread => exact ⟨_, .number hread, .refl _⟩
  | name name => exact ⟨_, .name name, .refl _⟩
  | @call n name parts _ ih =>
    have hparts : ∀ p ∈ parts, ∃ e', Derives ctx.folding n .comparison p.1 e' ∧
        p.2.Rewrites Expr.Signs e' := by
      intro p hp
      refine ih p hp (hsignless.of_subset fun t ht => ?_)
      have hrow := Token.subset_separated (List.mem_map_of_mem hp) ht
      exact List.mem_cons_of_mem _ (List.mem_cons_of_mem _ (List.mem_append_left _ hrow))
    have : Nonempty (Expr T) := ⟨.int 0⟩
    choose! f hderives hrewrites using hparts
    have hrows : ∀ q ∈ parts.map fun p => (p.1, f p), Derives ctx.folding n .comparison q.1 q.2 :=
      List.forall_mem_map.2 hderives
    have hpairs : ∀ q ∈ parts.map fun p => (p.2, f p), q.1.Rewrites Expr.Signs q.2 :=
      List.forall_mem_map.2 hrewrites
    have hcall := Derives.call name hrows
    have hrewrite := Expr.Rewrites.call name hpairs
    rw [List.map_map, List.map_map] at hcall hrewrite
    exact ⟨_, hcall, hrewrite⟩
  | group _ ih =>
    have hts := hsignless.of_subset fun t ht => List.mem_cons_of_mem _ (List.mem_append_left _ ht)
    obtain ⟨e', hderives, hrewrites⟩ := ih hts
    exact ⟨e', .group hderives, hrewrites⟩

/-! ## Whole texts -/

/-- Reads a formula in which a minus sign always negates what stands after it. -/
def parseNegating (locale : Locale) (functions : FunctionRegistry T) (constants : ConstantRegistry T)
    (text : String) : Except FormulaError (Expr T) :=
  whole ⟨locale, functions, constants, false, byteSize text.toList⟩ text.toList

/-- **Taking a sign into a number changes no formula.** Under a locale of the library, a text that is
accepted with every minus sign read as a negation is accepted, with an expression that is no deeper and
has the same value or error under all bindings, whatever its functions are then. -/
theorem parse_signs [SignSymmetric T] {locale : Locale} (hlocale : locale ∈ Locale.presets)
    {functions : FunctionRegistry T} {constants : ConstantRegistry T} {text : String} {t : Expr T}
    (h : parseNegating locale functions constants text = .ok t) :
    ∃ t', parse locale functions constants text = .ok t' ∧ t'.depth ≤ t.depth ∧
      ∀ (registry : FunctionRegistry T) (bindings : Bindings T),
        (t'.evaluate registry bindings).result = (t.evaluate registry bindings).result := by
  have hdistinct := Locale.distinct_of_mem_presets hlocale
  obtain ⟨⟨ts, hlexes, hderives⟩, hvalid, hheight⟩ := derives_of_whole h
  obtain ⟨t', hderives', hrewrites⟩ :=
    exists_derives_folding rfl hderives (signless_of_lexes hdistinct hlexes)
  have hvalid' : t'.validate functions = .ok () :=
    (hrewrites.validate_eq fun _ _ => Expr.Signs.validate_eq).trans hvalid
  have hle : t'.height ≤ t.height := hrewrites.height_le fun _ _ => Expr.Signs.height_le
  refine ⟨t', ?_, ?_, fun registry bindings => hrewrites.result_eq fun _ _ => Expr.Signs.result_eq⟩
  · have hsignable : Signable (formulaContext locale functions constants text) ts :=
      signable_of_lexes hdistinct hlexes
    rcases whole_of_derives hdistinct hderives' hsignable hvalid' hlexes with hok | ⟨-, hdeep⟩
    · exact hok
    · omega
  · rwa [Expr.depth_eq_height, Expr.depth_eq_height]

/-- Two times minus three is a product by a negative number, and was one by a negation. -/
theorem parse_signs_product :
    let t : Expr Fixed := .binary .mul (.int 2) (.neg (.int 3))
    Locale.english ∈ Locale.presets ∧ parseNegating .english ∅ ∅ "2 * -3" = .ok t ∧
      ∃ t', parse .english ∅ ∅ "2 * -3" = .ok t' ∧ t'.depth ≤ t.depth ∧
        ∀ (registry : FunctionRegistry Fixed) (bindings : Bindings Fixed),
          (t'.evaluate registry bindings).result = (t.evaluate registry bindings).result := by
  intro t
  have hpreset : Locale.english ∈ Locale.presets := by decide
  have hparse : parseNegating .english ∅ ∅ "2 * -3" = .ok t := by cbv
  exact ⟨hpreset, hparse, parse_signs hpreset hparse⟩

end Parser

end Formulary
