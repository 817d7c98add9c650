import Formulary.Expr.Text
import Formulary.Function.Builtin
import Formulary.Proofs.Expr.Depth
import Formulary.Proofs.Number.Legible
import Formulary.Proofs.Parser.Acceptance

/-!
# Proofs/Parser/RoundTrip — parsing undoes display

The displayed form of an expression reads as its `tokens`, whatever stands after it at a seam, and the
tokens derive the expression. Every operator stands in parentheses, so each level of the expression
takes two nested readers at most: half of the levels that an expression may have are always enough.
-/

namespace Formulary

open Text

/-! ## Operators and seams -/

/-- How an operator is written. -/
def Parser.Infix.symbol : Infix → List Char
  | binary op => op.symbol
  | compare op => op.symbol

/-- An operator ends at the blank behind it. -/
theorem Parser.infix?_symbol (op : Infix) (rest : List Char) :
    infix? (op.symbol ++ ' ' :: rest) = some (op, ' ' :: rest) := by
  rcases op with op | op <;> cases op <;> rfl

/-- At a seam a text ends, or goes on with a blank, a comma or a closing parenthesis. -/
theorem AtSeam.stopsAt_of_eq {p : Char → Bool} {rest : List Char} (h : AtSeam rest)
    (hblank : p ' ' = false) (hcomma : p ',' = false) (hclosing : p ')' = false) :
    StopsAt p rest := by
  refine h.stopsAt fun c hc => ?_
  rw [isSeam, Bool.or_eq_false_iff, Bool.or_eq_false_iff, beq_eq_false_iff_ne, beq_eq_false_iff_ne,
    beq_eq_false_iff_ne]
  refine ⟨⟨?_, ?_⟩, ?_⟩ <;> rintro rfl
  · rw [hblank] at hc
    cases hc
  · rw [hcomma] at hc
    cases hc
  · rw [hclosing] at hc
    cases hc

open Formulary.Parser

namespace Expr

variable {T : Type}

/-! ## Expressions that display can be read back from -/

/-- A name as the parser reads one: ASCII letters, digits and underscores, and no digit first. -/
def IsIdentifier (name : String) : Prop :=
  ∃ c rest, name.toList = c :: rest ∧ isNameStart c = true ∧ rest.all isNameChar = true

/-- An expression of integers, variables, operators and calls whose displayed form shows what it is: a
variable does not pass for a constant, nor a minus sign for a part of another number. -/
inductive Readable (constants : ConstantRegistry T) : Expr T → Prop where
  | int (i : Int32) : Readable constants (.int i)
  | var {name : String} : IsIdentifier name → constants.protected? name = none →
      Readable constants (.var name)
  | binary {op : BinaryOp} {left right : Expr T} :
    Readable constants left → Readable constants right →
      (op = .power → ∀ i, left = .int i → 0 ≤ i.toInt) →
        Readable constants (.binary op left right)
  | neg {operand : Expr T} : Readable constants operand →
      (∀ i, operand = .int i → i.toInt ≤ 0) → Readable constants (.neg operand)
  | compare {op : CompareOp} {left right : Expr T} :
    Readable constants left → Readable constants right → Readable constants (.compare op left right)
  | call {name : String} {arguments : List (Expr T)} : IsIdentifier name →
      (∀ a ∈ arguments, Readable constants a) → Readable constants (.call name arguments)

/-! ## Tokens of the displayed form -/

mutual

/-- The tokens of the displayed form of an expression. A constant has none of its own. -/
def tokens : Expr T → List Token
  | int i =>
    if i.toInt < 0 then [.minus, .number (decimal i.toInt.natAbs)]
    else [.number (decimal i.toInt.natAbs)]
  | const _ => []
  | var name => [.name name]
  | binary op left right =>
    .opening :: (left.tokens ++ .operator (.binary op) :: right.tokens ++ [.closing])
  | compare op left right =>
    .opening :: (left.tokens ++ .operator (.compare op) :: right.tokens ++ [.closing])
  | neg operand => .opening :: (.minus :: operand.tokens ++ [.closing])
  | call name arguments =>
    .name name :: .opening :: (Token.separated (tokensAll arguments) ++ [.closing])

/-- The tokens of arguments one by one. -/
def tokensAll : List (Expr T) → List (List Token)
  | [] => []
  | e :: rest => e.tokens :: tokensAll rest

end

theorem tokensAll_eq (es : List (Expr T)) : tokensAll es = es.map tokens := by
  induction es with
  | nil => rfl
  | cons e es ih => rw [tokensAll, ih, List.map_cons]

/-! ## Reading the displayed form as tokens -/

theorem isBlank_of_isNameStart {c : Char} (h : isNameStart c = true) : isBlank c = false := by
  simp only [isNameStart, Char.isAlpha, Char.isUpper, Char.isLower, Bool.or_eq_true,
    Bool.and_eq_true, decide_eq_true_eq, UInt32.le_iff_toNat_le] at h
  have hcode : c.toNat = c.val.toNat := rfl
  have hA : 'A'.val.toNat = 65 := rfl
  have hZ : 'Z'.val.toNat = 90 := rfl
  have ha : 'a'.val.toNat = 97 := rfl
  have hz : 'z'.val.toNat = 122 := rfl
  rcases h with (hupper | hlower) | rfl
  · exact isBlank_eq_false (by omega) (by omega)
  · exact isBlank_eq_false (by omega) (by omega)
  · rfl

/-- A name ends where a character stands that names do not have. -/
theorem starts_name {name : String} (h : IsIdentifier name) {rest : List Char}
    (hrest : StopsAt isNameChar rest) (locale : Locale) :
    Starts locale (dropBlanks (name.toList ++ rest)) (.name name) rest := by
  obtain ⟨c, cs, hname, hc, hcs⟩ := h
  have hall : ∀ d ∈ name.toList, isNameChar d = true := by
    rw [hname]
    exact List.forall_mem_cons.2 ⟨isNameChar_of_isNameStart hc, List.all_eq_true.1 hcs⟩
  have hinput : name.toList ++ rest = c :: (cs ++ rest) := by rw [hname, List.cons_append]
  have hdrop : dropBlanks (name.toList ++ rest) = name.toList ++ rest := by
    rw [hinput, dropBlanks_cons (isBlank_of_isNameStart hc)]
  have hstarts : Starts locale (name.toList ++ rest) _ _ := .name hc hinput
  rw [takeWhile_append_of_stopsAt hall hrest, dropWhile_append_of_stopsAt hall hrest,
    String.ofList_toList] at hstarts
  rwa [hdrop]

/-- **A number ends at a seam**, where neither digits nor an exponent go on. -/
theorem starts_number {c : Char} {cs rest : List Char} (hc : c.isDigit = true)
    (hnumber : ∀ d ∈ c :: cs, Locale.english.isNumberChar d = true) (hrest : AtSeam rest) :
    Starts .english (dropBlanks (c :: cs ++ rest)) (.number (c :: cs)) rest := by
  have hstop : StopsAt Locale.english.isNumberChar rest := hrest.stopsAt_of_eq rfl rfl rfl
  have hexponent : scanExponent rest = ([], rest) := by
    cases rest with
    | nil => rfl
    | cons d rest =>
      have hmark : decide (d = 'e' ∨ d = 'E') = false :=
        hrest.stopsAt_of_eq (p := fun d => decide (d = 'e' ∨ d = 'E')) rfl rfl rfl d rfl
      exact if_neg fun h => of_decide_eq_false hmark h.1
  have hat : atNumber .english (c :: cs ++ rest) = true := by
    rw [List.cons_append, atNumber, hc]
    rfl
  have hdrop : dropBlanks (c :: cs ++ rest) = c :: cs ++ rest :=
    dropBlanks_cons (isBlank_of_isDigit hc) _
  rw [hdrop]
  refine .number hat ?_
  simp only [scan, takeWhile_append_of_stopsAt hnumber hstop,
    dropWhile_append_of_stopsAt hnumber hstop, hexponent, List.append_nil]

theorem isNumberChar_of_isDigit {c : Char} (h : c.isDigit = true) :
    Locale.english.isNumberChar c = true := by
  rw [Locale.isNumberChar, h]
  rfl

theorem starts_decimal (n : Nat) {rest : List Char} (hrest : AtSeam rest) :
    Starts .english (dropBlanks (decimal n ++ rest)) (.number (decimal n)) rest := by
  have hdigits : ∀ d ∈ decimal n, Locale.english.isNumberChar d = true :=
    fun d hd => isNumberChar_of_isDigit (isDigit_of_mem_decimal d hd)
  obtain ⟨c, cs, hn, hc⟩ := decimal_eq_cons n
  rw [hn] at hdigits ⊢
  exact starts_number hc hdigits hrest

variable [Numeric T]

/-- The displayed form of an expression reads as its tokens up to any seam. -/
def LexesAsTokens (e : Expr T) : Prop :=
  ∀ rest, AtSeam rest → Lexes .english (writeDisplay rest e) e.tokens rest

theorem lexes_int (i : Int32) : LexesAsTokens (.int i : Expr T) := by
  intro rest hrest
  rw [writeDisplay, tokens, signedDecimal]
  split
  · exact .cons (.operator rfl) (.singleton (starts_decimal _ hrest))
  · exact .singleton (starts_decimal _ hrest)

theorem lexes_join (op : Parser.Infix) {left right : Expr T} {rest : List Char}
    (hleft : LexesAsTokens left) (hright : LexesAsTokens right) :
    Lexes .english
      ('(' :: writeDisplay (' ' :: (op.symbol ++ ' ' :: writeDisplay (')' :: rest) right)) left)
      (.opening :: (left.tokens ++ .operator op :: right.tokens ++ [.closing])) rest := by
  have hr : Lexes .english (' ' :: writeDisplay (')' :: rest) right) (right.tokens ++ [.closing]) rest :=
    ((hright _ (atSeam_cons rfl _)).append (.singleton (.closing rfl))).of_dropBlanks rfl
  have hop : Lexes .english (' ' :: (op.symbol ++ ' ' :: writeDisplay (')' :: rest) right))
      (.operator op :: (right.tokens ++ [.closing])) rest := by
    refine .cons (.operator ?_) hr
    have hdrop : dropBlanks (' ' :: (op.symbol ++ ' ' :: writeDisplay (')' :: rest) right)) =
        op.symbol ++ ' ' :: writeDisplay (')' :: rest) right := by
      rcases op with op | op <;> cases op <;> rfl
    rw [hdrop, infix?_symbol]
  rw [List.append_assoc, List.cons_append]
  exact .cons (.opening rfl) ((hleft _ (atSeam_cons rfl _)).append hop)

theorem lexes_displays {arguments : List (Expr T)} {rest : List Char}
    (h : ∀ a ∈ arguments, LexesAsTokens a) :
    Lexes .english (writeDisplays (')' :: rest) arguments)
      (Token.separated (tokensAll arguments) ++ [.closing]) rest := by
  induction arguments with
  | nil => exact .singleton (.closing rfl)
  | cons a more ih =>
    obtain ⟨ha, hmore⟩ := List.forall_mem_cons.1 h
    cases more with
    | nil => exact (ha _ (atSeam_cons rfl _)).append (.singleton (.closing rfl))
    | cons b more =>
      have hrest : Lexes .english (' ' :: writeDisplays (')' :: rest) (b :: more)) _ rest :=
        (ih hmore).of_dropBlanks rfl
      have hmany : tokensAll (b :: more) ≠ [] := List.cons_ne_nil _ _
      rw [tokensAll, Token.separated_cons hmany, List.append_assoc, List.cons_append]
      exact (ha _ (atSeam_cons rfl _)).append (.cons (.separator rfl) hrest)

/-- **The displayed form reads as its tokens.** -/
theorem lexes_tokens {constants : ConstantRegistry T} {e : Expr T} (h : Readable constants e) :
    LexesAsTokens e := by
  induction h with
  | int i => exact lexes_int i
  | var hname _ =>
    intro rest hrest
    rw [writeDisplay, tokens]
    exact .singleton (starts_name hname (hrest.stopsAt_of_eq rfl rfl rfl) _)
  | binary _ _ _ ihleft ihright =>
    intro rest hrest
    rw [writeDisplay, tokens]
    exact lexes_join (.binary _) ihleft ihright
  | compare _ _ ihleft ihright =>
    intro rest hrest
    rw [writeDisplay, tokens]
    exact lexes_join (.compare _) ihleft ihright
  | neg _ _ ih =>
    intro rest hrest
    rw [writeDisplay, tokens]
    exact .cons (.opening rfl) (.cons (.operator rfl)
      ((ih _ (atSeam_cons rfl _)).append (.singleton (.closing rfl))))
  | @call name arguments hname _ ih =>
    intro rest hrest
    rw [writeDisplay, tokens]
    have hopening : StopsAt isNameChar ('(' :: writeDisplays (')' :: rest) arguments) := fun c hc => by
      cases hc
      rfl
    exact .cons (starts_name hname hopening _) (.cons (.opening rfl) (lexes_displays ih))

/-! ## Deriving the expression from its tokens -/

/-- The tightest stratum of the displayed form. -/
def displayStratum : Expr T → Stratum
  | int i => if i.toInt < 0 then .signed else .atom
  | _ => .atom

omit [Numeric T] in
theorem signed_le_displayStratum (e : Expr T) : Stratum.signed.rank ≤ e.displayStratum.rank := by
  cases e with
  | int i =>
    rw [displayStratum]
    split <;> decide
  | _ => exact (by decide : 3 ≤ 5)

omit [Numeric T] in
/-- What stands before an operator is tight enough for it, a negative integer before a power apart. -/
theorem leftStratum_le_displayStratum {op : Parser.Infix} {left : Expr T}
    (h : op = .binary .power → ∀ i, left = .int i → 0 ≤ i.toInt) :
    op.leftStratum.rank ≤ left.displayStratum.rank := by
  by_cases hpower : op = .binary .power
  · cases left with
    | int i =>
      have hi : ¬i.toInt < 0 := Int.not_lt.2 (h hpower i rfl)
      rw [displayStratum, if_neg hi, hpower]
      decide
    | _ => rw [hpower]; exact (by decide : 5 ≤ 5)
  · refine Nat.le_trans ?_ (signed_le_displayStratum left)
    rcases op with op | op <;> cases op <;> first | decide | exact (hpower rfl).elim

omit [Numeric T] in
theorem rightStratum_le_displayStratum (op : Parser.Infix) (right : Expr T) :
    op.rightStratum.rank ≤ right.displayStratum.rank := by
  refine Nat.le_trans ?_ (signed_le_displayStratum right)
  rcases op with op | op <;> cases op <;> decide

omit [Numeric T] in
theorem height_pos (e : Expr T) : 0 < e.height := by
  rw [height_eq]
  omega

omit [Numeric T] in
theorem height_le_heights {e : Expr T} {es : List (Expr T)} (h : e ∈ es) :
    e.height ≤ heights es := by
  induction es with
  | nil => cases h
  | cons f es ih =>
    rw [heights]
    rcases List.mem_cons.1 h with rfl | h
    · exact Nat.le_max_left _ _
    · exact Nat.le_trans (ih h) (Nat.le_max_right _ _)

theorem natAbs_toInt_lt (i : Int32) (h : ¬i.toInt < 0) : i.toInt.natAbs < 2147483648 := by
  have hlt := Int32.toInt_lt i
  omega

theorem natAbs_toInt_le (i : Int32) : i.toInt.natAbs ≤ 2147483648 := by
  have hlt := Int32.toInt_lt i
  have hle := Int32.le_toInt i
  omega

/-- A number that is displayed is read back. -/
theorem read_natAbs {i : Int32} (locale : Locale) (h : ¬i.toInt < 0) :
    (read locale false (decimal i.toInt.natAbs) : Except _ (Expr T)) = .ok (.int i) := by
  have hi : (i.toInt.natAbs : Int) = i.toInt := by omega
  rw [read_decimal locale (natAbs_toInt_lt i h), hi, Int32.ofInt_toInt]

theorem read_minus_natAbs {i : Int32} (locale : Locale) (h : i.toInt ≤ 0) :
    (read locale true (decimal i.toInt.natAbs) : Except _ (Expr T)) = .ok (.int i) := by
  have hi : -(i.toInt.natAbs : Int) = i.toInt := by omega
  rw [read_minus_decimal locale (natAbs_toInt_le i), hi, Int32.ofInt_toInt]

/-- A minus sign does not become part of a negated expression: there is no number, or it is zero. -/
theorem not_takesSign_tokens {ctx : Context T} {e : Expr T} (h : ∀ i, e = .int i → i.toInt ≤ 0) :
    ¬TakesSign ctx e.tokens := by
  rintro ⟨-, text, htext, hread⟩
  cases e with
  | int i =>
    have hi := h i rfl
    rw [tokens] at htext
    split at htext
    · cases htext
    · next hpos =>
      cases htext
      have hzero : i = 0 := by
        rw [← Int32.toInt_inj]
        exact Int.le_antisymm hi (Int.not_lt.1 hpos)
      exact hread ((read_minus_natAbs ctx.locale hi).trans (by rw [hzero]))
  | _ => cases htext

/-- Operators in parentheses, one level of nesting for the parentheses and one for what stands after
the operator. -/
theorem derives_join {ctx : Context T} {n : Nat} {op : Parser.Infix} {left right : Expr T}
    (hleft : ∀ n, 2 * left.height ≤ n + 1 → Derives ctx n left.displayStratum left.tokens left)
    (hright : ∀ n, 2 * right.height ≤ n + 1 → Derives ctx n right.displayStratum right.tokens right)
    (hpower : op = .binary .power → ∀ i, left = .int i → 0 ≤ i.toInt)
    (hn : 2 * (1 + max left.height right.height) ≤ n + 1) :
    Derives ctx n .atom (.opening :: (left.tokens ++ .operator op :: right.tokens ++ [.closing]))
      (op.build left right) := by
  have hpos := height_pos left
  obtain ⟨m, rfl⟩ : ∃ m, n = m + 2 := ⟨n - 2, by omega⟩
  have hl := (hleft (m + 1) (by omega)).looser (leftStratum_le_displayStratum hpower)
  have hr := (hright m (by omega)).looser (rightStratum_le_displayStratum op right)
  exact .group (.looser (Nat.zero_le _) (.operator hl hr))

/-- **The tokens derive the expression**, with two levels of nesting for each of its own. -/
theorem derives_tokens {ctx : Context T} {e : Expr T} (hfolds : ctx.foldsSign = true)
    (h : Readable ctx.constants e) :
    ∀ n, 2 * e.height ≤ n + 1 → Derives ctx n e.displayStratum e.tokens e := by
  induction h with
  | int i =>
    intro n hn
    obtain ⟨m, rfl⟩ : ∃ m, n = m + 1 := ⟨n - 1, by rw [height] at hn; omega⟩
    rw [tokens, displayStratum]
    split
    · next hneg =>
      have hzero : (.int i : Expr T) ≠ .int 0 := by
        intro h
        cases h
        exact absurd hneg (by decide)
      exact .literal hfolds (read_minus_natAbs _ (Int.le_of_lt hneg)) hzero
    · next hpos => exact .number (read_natAbs _ hpos)
  | @var name _ hfree =>
    intro n hn
    obtain ⟨m, rfl⟩ : ∃ m, n = m + 1 := ⟨n - 1, by rw [height] at hn; omega⟩
    have hderives : Derives ctx (m + 1) .atom [.name name] (nameExpr ctx name) := .name name
    rwa [nameExpr, hfree] at hderives
  | binary _ _ hpower ihleft ihright =>
    intro n hn
    rw [tokens]
    exact derives_join ihleft ihright (fun h => hpower (Parser.Infix.binary.inj h)) hn
  | compare _ _ ihleft ihright =>
    intro n hn
    rw [tokens]
    exact derives_join ihleft ihright (fun h => by cases h) hn
  | @neg operand _ hsign ih =>
    intro n hn
    rw [height] at hn
    have hpos := height_pos operand
    obtain ⟨m, rfl⟩ : ∃ m, n = m + 2 := ⟨n - 2, by omega⟩
    have hoperand := (ih m (by omega)).looser (signed_le_displayStratum operand)
    rw [tokens]
    exact .group (.looser (Nat.zero_le _) (.neg (not_takesSign_tokens hsign) hoperand))
  | @call name arguments _ _ ih =>
    intro n hn
    rw [height] at hn
    obtain ⟨m, rfl⟩ : ∃ m, n = m + 1 := ⟨n - 1, by omega⟩
    have hparts : ∀ p ∈ arguments.map fun a => (a.tokens, a), Derives ctx m .comparison p.1 p.2 := by
      intro p hp
      obtain ⟨a, ha, rfl⟩ := List.mem_map.1 hp
      have hheight := height_le_heights ha
      exact (ih a ha m (by omega)).looser (Nat.zero_le _)
    have htokens : (arguments.map fun a => (a.tokens, a)).map (·.1) = tokensAll arguments := by
      rw [tokensAll_eq, List.map_map]
      rfl
    have hexprs : (arguments.map fun a => (a.tokens, a)).map (·.2) = arguments := by
      rw [List.map_map]
      exact List.map_id arguments
    have hcall := Derives.call name hparts
    rwa [htokens, hexprs] at hcall

omit [Numeric T] in
/-- The numbers of a displayed form are integers of 32 bits without their sign. -/
theorem eq_decimal_of_mem_tokens {e : Expr T} {text : List Char} (h : .number text ∈ e.tokens) :
    ∃ n ≤ 2147483648, text = decimal n := by
  induction e using Expr.induct with
  | int i =>
    refine ⟨i.toInt.natAbs, natAbs_toInt_le i, ?_⟩
    rw [tokens] at h
    split at h <;> simpa [Token.minus] using h
  | const x => cases h
  | var name => simp [tokens] at h
  | binary op left right ihleft ihright =>
    simp only [tokens, List.mem_cons, List.mem_append, List.not_mem_nil, or_false, reduceCtorEq,
      false_or] at h
    rcases h with h | h
    · exact ihleft h
    · exact ihright h
  | compare op left right ihleft ihright =>
    simp only [tokens, List.mem_cons, List.mem_append, List.not_mem_nil, or_false, reduceCtorEq,
      false_or] at h
    rcases h with h | h
    · exact ihleft h
    · exact ihright h
  | neg operand ih =>
    simp only [tokens, Token.minus, List.mem_cons, List.mem_append, List.not_mem_nil, or_false,
      reduceCtorEq, false_or] at h
    exact ih h
  | call name arguments ih =>
    simp only [tokens, List.mem_cons, List.mem_append, List.not_mem_nil, or_false, reduceCtorEq,
      false_or] at h
    obtain ⟨ts, hts, hmem⟩ := Token.exists_of_mem_separated h nofun
    rw [tokensAll_eq] at hts
    obtain ⟨a, ha, rfl⟩ := List.mem_map.1 hts
    exact ih a ha hmem

/-- Numbers of a displayed form are read after a minus sign, whatever the number type. -/
theorem signable_tokens (ctx : Context T) (e : Expr T) : Signable ctx e.tokens := by
  intro text htext _ _
  obtain ⟨n, hn, rfl⟩ := eq_decimal_of_mem_tokens htext
  exact ⟨_, read_minus_decimal ctx.locale hn⟩

/-- **Parsing undoes display** for expressions of at most half the levels that are allowed. -/
theorem parse_display {functions : FunctionRegistry T} {constants : ConstantRegistry T} {e : Expr T}
    (h : Readable constants e) (hvalid : e.validate functions = .ok ()) (hdepth : e.depth ≤ 256) :
    parse .english functions constants e.display = .ok e := by
  rw [depth_eq_height] at hdepth
  have hdistinct : Locale.english.Distinct := Locale.distinct_of_mem_presets (by decide)
  have hderives : Derives (formulaContext .english functions constants e.display) maxDepth
      .comparison e.tokens e :=
    .looser (Nat.zero_le _) (derives_tokens rfl h _ (by rw [maxDepth]; omega))
  have hlexes : Lexes .english e.display.toList e.tokens [] := by
    rw [display, String.toList_ofList]
    exact lexes_tokens h [] atSeam_nil
  rcases whole_of_derives hdistinct hderives (signable_tokens _ e) hvalid hlexes with hok | ⟨-, hdeep⟩
  · exact hok
  · rw [maxDepth] at hdeep
    omega

/-- Signs are kept apart: `(max(-5, (-0)) - (x ^ -2))` is read back as it was. -/
theorem parse_display_signs :
    ∃ e : Expr Fixed,
      e = .binary .sub (.call "max" [.int (-5), .neg (.int 0)]) (.binary .power (.var "x") (.int (-2))) ∧
      Readable Builtin.constantRegistry e ∧ e.validate Builtin.functionRegistry = .ok () ∧
      e.depth ≤ 256 ∧
      parse .english Builtin.functionRegistry Builtin.constantRegistry e.display = .ok e := by
  have hcall : Readable (T := Fixed) Builtin.constantRegistry
      (.call "max" [.int (-5), .neg (.int 0)]) := by
    refine .call ⟨'m', ['a', 'x'], rfl, rfl, rfl⟩ fun a ha => ?_
    rcases List.mem_cons.1 ha with rfl | ha
    · exact .int _
    · rw [List.mem_singleton.1 ha]
      exact .neg (.int 0) fun i hi => by cases hi; decide
  have hpower : Readable (T := Fixed) Builtin.constantRegistry
      (.binary .power (.var "x") (.int (-2))) :=
    .binary (.var ⟨'x', [], rfl, rfl, rfl⟩ (by cbv)) (.int _) fun _ i hi => by cases hi
  have hreadable : Readable (T := Fixed) Builtin.constantRegistry
      (.binary .sub (.call "max" [.int (-5), .neg (.int 0)]) (.binary .power (.var "x") (.int (-2)))) :=
    .binary hcall hpower fun h => by cases h
  exact ⟨_, rfl, hreadable, by cbv, by cbv, parse_display hreadable (by cbv) (by cbv)⟩

end Expr

end Formulary
