import Formulary.Proofs.Parser.Grammar

/-!
# Proofs/Parser/Reader — what the parser finds

Every reader returns an expression with its depth and the rest of the text, and a bound on the rest
that its own recursion needs. A `Piece` leaves the bound out, so that outcomes over different texts
can be compared. The equations below run the readers on pieces, one for each way the text goes on.
-/

namespace Formulary.Parser

open Text

/-! ## Pieces -/

/-- Something read off the front of a text, with its depth. -/
structure Piece (α : Type) where
  value : α
  depth : Nat
  rest : List Char

section Pieces

variable {T : Type} {bound : Nat}

def Parsed.piece (p : Parsed T bound) : Piece (Expr T) :=
  ⟨p.expr, p.depth, p.rest⟩

def Arguments.piece (p : Arguments T bound) : Piece (List (Expr T)) :=
  ⟨p.exprs, p.depth, p.rest⟩

/-- What a reader finds. -/
def Reader.find (reader : Reader T) (strength : Nat) (input : List Char) :
    Except FormulaError (Piece (Expr T)) :=
  (reader strength input).map Parsed.piece

/-- A piece, unless it has too many levels. -/
def Piece.checked {α : Type} (p : Piece α) : Except FormulaError (Piece α) :=
  if maxDepth < p.depth then .error (.tooDeep maxDepth) else .ok p

theorem Piece.checked_of_lt {α : Type} {p : Piece α} (h : maxDepth < p.depth) :
    p.checked = .error (.tooDeep maxDepth) :=
  if_pos h

theorem Piece.checked_of_le {α : Type} {p : Piece α} (h : p.depth ≤ maxDepth) :
    p.checked = .ok p :=
  if_neg (Nat.not_lt.2 h)

end Pieces

/-! ## Where operators end -/

/-- An operator in front of a text, if there is one, binds less than this. -/
def Below (n : Nat) (input : List Char) : Prop :=
  ∀ op after, infix? (dropBlanks input) = some (op, after) → op.left < n

theorem Below.mono {m n : Nat} {input : List Char} (h : Below m input) (hle : m ≤ n) :
    Below n input :=
  fun op after hop => Nat.lt_of_lt_of_le (h op after hop) hle

theorem below_atom (input : List Char) : Below Stratum.atom.bound input :=
  fun op _ _ => op.left_lt_ten

/-- Between a sign and a power there is no operator. -/
theorem Below.signStrength {input : List Char} (h : Below Stratum.signed.bound input) :
    Below signStrength input :=
  fun op after hop => Infix.left_lt_signStrength (h op after hop)

/-- Nothing that binds less than a power is one. -/
theorem Below.ne_power {input : List Char} (h : Below Stratum.signed.bound input)
    (after : List Char) : dropBlanks input ≠ '^' :: after := by
  intro heq
  have hpower : infix? (dropBlanks input) = some (.binary .power, after) := by rw [heq]; rfl
  exact absurd (h _ _ hpower) (by decide)

/-- An operator that does not bind less is a power. -/
theorem below_signed_of_ne_power {input : List Char}
    (h : ∀ after, dropBlanks input ≠ '^' :: after) : Below Stratum.signed.bound input := by
  intro op after hop
  rcases Nat.lt_or_ge op.left Stratum.signed.bound with hlt | hge
  · exact hlt
  · have hpower : op = .binary .power := by
      rcases op with op | op <;> cases op <;> first | rfl | exact absurd hge (by decide)
    subst hpower
    exact (h after (eq_cons_of_infix?_power hop)).elim

/-- Without an operator in front, there is none to bind. -/
theorem below_of_infix?_eq_none {n : Nat} {input : List Char}
    (h : infix? (dropBlanks input) = none) : Below n input := by
  intro op after hop
  rw [h] at hop
  cases hop

section Reading

variable {T : Type} {reader : Reader T} {ctx : Context T}

/-! ## Operators after an operand -/

/-- The expression before an operator and the one after it become one. -/
def joined (op : Infix) (left right : Piece (Expr T)) : Piece (Expr T) :=
  ⟨op.build left.value right.value, max left.depth right.depth + 1, right.rest⟩

/-- Goes on with the operators after a piece. -/
def extend (reader : Reader T) (strength : Nat) (p : Piece (Expr T)) :
    Except FormulaError (Piece (Expr T)) :=
  (infixes reader strength p.value p.depth p.rest).map Parsed.piece

theorem extend_stop {strength : Nat} {p : Piece (Expr T)} (h : Below strength p.rest) :
    extend reader strength p = .ok ⟨p.value, p.depth, dropBlanks p.rest⟩ := by
  rw [extend, infixes]
  split
  · rfl
  · next op after hop =>
    rw [if_pos (h op after hop)]
    rfl

theorem extend_step {strength : Nat} {p : Piece (Expr T)} {after : List Char} {op : Infix}
    (hop : infix? (dropBlanks p.rest) = some (op, after)) (hle : strength ≤ op.left) :
    extend reader strength p =
      (reader.find op.right after >>= fun right => (joined op p right).checked >>=
        extend reader strength) := by
  rw [extend, infixes]
  split
  · next hnone => rw [hop] at hnone; cases hnone
  · next op' after' hop' =>
    rw [hop] at hop'
    cases hop'
    rw [if_neg (Nat.not_lt.2 hle), Reader.find]
    cases reader op.right after with
    | error error => rfl
    | ok right =>
      change _ = (joined op p right.piece).checked >>= extend reader strength
      dsimp only
      by_cases hdeep : maxDepth < max p.depth right.depth + 1
      · have hchecked := Piece.checked_of_lt (p := joined op p right.piece) hdeep
        rw [hchecked, if_pos hdeep]
        rfl
      · have hchecked := Piece.checked_of_le (p := joined op p right.piece) (Nat.not_lt.1 hdeep)
        rw [hchecked, if_neg hdeep]
        change _ = (infixes reader strength (op.build p.value right.expr)
          (max p.depth right.depth + 1) right.rest).map Parsed.piece
        cases infixes reader strength (op.build p.value right.expr)
          (max p.depth right.depth + 1) right.rest <;> rfl

/-- Either no operator goes on with an expression, or one does. -/
theorem below_or_exists (strength : Nat) (input : List Char) :
    Below strength input ∨
      ∃ op after, infix? (dropBlanks input) = some (op, after) ∧ strength ≤ op.left := by
  cases h : infix? (dropBlanks input) with
  | none => exact .inl (below_of_infix?_eq_none h)
  | some p =>
    obtain ⟨op, after⟩ := p
    rcases Nat.lt_or_ge op.left strength with hlt | hge
    · refine .inl fun op' after' h' => ?_
      rw [h] at h'
      cases h'
      exact hlt
    · exact .inr ⟨op, after, rfl, hge⟩

/-- Blanks before an operator do not matter. -/
theorem extend_dropBlanks (strength : Nat) (e : Expr T) (depth : Nat) (input : List Char) :
    extend reader strength ⟨e, depth, dropBlanks input⟩ = extend reader strength ⟨e, depth, input⟩ := by
  rcases below_or_exists strength input with hbelow | ⟨op, after, hop, hle⟩
  · have hbelow' : Below strength (dropBlanks input) := by
      rw [Below, dropBlanks_dropBlanks]
      exact hbelow
    rw [extend_stop (p := ⟨e, depth, input⟩) hbelow, extend_stop hbelow']
    simp only [dropBlanks_dropBlanks]
  · have hop' : infix? (dropBlanks (dropBlanks input)) = some (op, after) := by
      rw [dropBlanks_dropBlanks, hop]
    rw [extend_step (p := ⟨e, depth, input⟩) hop hle, extend_step hop' hle]
    rfl

theorem extend_congr {strength : Nat} {e : Expr T} {depth : Nat} {rest rest' : List Char}
    (h : dropBlanks rest = dropBlanks rest') :
    extend reader strength ⟨e, depth, rest⟩ = extend reader strength ⟨e, depth, rest'⟩ := by
  rw [← extend_dropBlanks, h, extend_dropBlanks]

/-! ## Calls -/

/-- Goes on with the arguments after one. -/
def furtherArguments (ctx : Context T) (reader : Reader T) (first : Piece (Expr T)) :
    Except FormulaError (Piece (List (Expr T))) :=
  match dropBlanks first.rest with
  | [] => .error .unexpectedEnd
  | c :: rest =>
    if c = ctx.locale.argument then
      (arguments ctx reader rest).map Arguments.piece >>= fun more =>
        .ok ⟨first.value :: more.value, max first.depth more.depth, more.rest⟩
    else if c = ')' then .ok ⟨[first.value], first.depth, rest⟩
    else .error (unexpected ctx (c :: rest))

theorem furtherArguments_separator {first : Piece (Expr T)} {rest : List Char}
    (h : dropBlanks first.rest = ctx.locale.argument :: rest) :
    furtherArguments ctx reader first =
      ((arguments ctx reader rest).map Arguments.piece >>= fun more =>
        .ok ⟨first.value :: more.value, max first.depth more.depth, more.rest⟩) := by
  simp only [furtherArguments, h, if_true]

theorem furtherArguments_closing {first : Piece (Expr T)} {rest : List Char}
    (h : dropBlanks first.rest = ')' :: rest) (hargument : ctx.locale.argument ≠ ')') :
    furtherArguments ctx reader first = .ok ⟨[first.value], first.depth, rest⟩ := by
  simp only [furtherArguments, h, if_neg hargument.symm, if_true]

theorem arguments_eq (input : List Char) :
    (arguments ctx reader input).map Arguments.piece =
      (reader.find 0 input >>= furtherArguments ctx reader) := by
  rw [arguments, Reader.find]
  cases reader 0 input with
  | error error => rfl
  | ok first =>
    change _ = furtherArguments ctx reader first.piece
    dsimp only
    split
    · next h => simp only [furtherArguments, Parsed.piece, h]; rfl
    · next c rest h =>
      simp only [furtherArguments, Parsed.piece, h]
      by_cases hseparator : c = ctx.locale.argument
      · rw [if_pos hseparator, if_pos hseparator]
        cases arguments ctx reader rest <;> rfl
      · rw [if_neg hseparator, if_neg hseparator]
        by_cases hclosing : c = ')'
        · rw [if_pos hclosing, if_pos hclosing]
          rfl
        · rw [if_neg hclosing, if_neg hclosing]
          rfl

theorem argumentList_none {input rest : List Char} (h : dropBlanks input = ')' :: rest) :
    (argumentList ctx reader input).map Arguments.piece = .ok ⟨[], 0, rest⟩ := by
  rw [argumentList]
  split
  · next rest' h' =>
    rw [h] at h'
    cases h'
    rfl
  · next h' => exact (h' _ h).elim

theorem argumentList_some {input : List Char} (h : ∀ rest, dropBlanks input ≠ ')' :: rest) :
    (argumentList ctx reader input).map Arguments.piece =
      (arguments ctx reader (dropBlanks input)).map Arguments.piece := by
  rw [argumentList]
  split
  · next rest h' => exact (h rest h').elim
  · cases arguments ctx reader (dropBlanks input) <;> rfl

/-- Checks a call whose arguments are read. -/
def called (ctx : Context T) (name : String) (arguments : Piece (List (Expr T))) :
    Except FormulaError (Piece (Expr T)) :=
  Piece.checked ⟨.call name arguments.value, arguments.depth + 1, arguments.rest⟩ >>= fun p =>
    ctx.functions.resolve name arguments.value.length >>= fun _ => .ok p

theorem named_call {c : Char} {rest input : List Char} (hc : isNameStart c = true)
    (h : dropBlanks ((c :: rest).dropWhile isNameChar) = '(' :: input) :
    (named ctx reader c rest hc).map Parsed.piece =
      ((argumentList ctx reader input).map Arguments.piece >>=
        called ctx (String.ofList ((c :: rest).takeWhile isNameChar))) := by
  rw [named]
  split
  · next input' h' =>
    rw [h] at h'
    cases h'
    cases argumentList ctx reader input with
    | error error => rfl
    | ok p =>
      change _ = called ctx _ p.piece
      dsimp only
      by_cases hdeep : maxDepth < p.depth + 1
      · rw [if_pos hdeep, called, Piece.checked_of_lt hdeep]
        rfl
      · rw [if_neg hdeep, called, Piece.checked_of_le (Nat.not_lt.1 hdeep)]
        change _ = (ctx.functions.resolve _ p.exprs.length >>= fun _ => _)
        cases ctx.functions.resolve (String.ofList ((c :: rest).takeWhile isNameChar))
          p.exprs.length <;> rfl
  · next h' => exact (h' _ h).elim

theorem named_alone {c : Char} {rest : List Char} (hc : isNameStart c = true)
    (h : ∀ input, dropBlanks ((c :: rest).dropWhile isNameChar) ≠ '(' :: input) :
    (named ctx reader c rest hc).map Parsed.piece =
      .ok ⟨nameExpr ctx (String.ofList ((c :: rest).takeWhile isNameChar)), 1,
        dropBlanks ((c :: rest).dropWhile isNameChar)⟩ := by
  rw [named]
  split
  · next input h' => exact (h input h').elim
  · rfl

variable [Numeric T]

/-! ## Signs -/

/-- What stands after a minus sign, if it takes the sign. -/
def signed? (ctx : Context T) (input : List Char) :
    Except FormulaError (Option (Piece (Expr T))) :=
  (signedLiteral? ctx input).map (·.map Parsed.piece)

/-- Whether a number takes the sign before it, by its value and what stands after it. -/
def signTaken (literal : Expr T) (rest : List Char) : Option (Piece (Expr T)) :=
  match literal, rest with
  | .int 0, _ => none
  | _, '^' :: _ => none
  | literal, rest => some ⟨literal, 1, rest⟩

omit [Numeric T] in
theorem signTaken_power (literal : Expr T) (rest : List Char) :
    signTaken literal ('^' :: rest) = none := by
  unfold signTaken
  split <;> first | rfl | simp_all

omit [Numeric T] in
theorem signTaken_some {literal : Expr T} {rest : List Char} (hzero : literal ≠ .int 0)
    (hpower : ∀ after, rest ≠ '^' :: after) : signTaken literal rest = some ⟨literal, 1, rest⟩ := by
  unfold signTaken
  split
  · exact (hzero rfl).elim
  · exact (hpower _ rfl).elim
  · rfl

omit [Numeric T] in
theorem eq_of_signTaken {literal : Expr T} {rest : List Char} {p : Piece (Expr T)}
    (h : signTaken literal rest = some p) :
    literal ≠ .int 0 ∧ (∀ after, rest ≠ '^' :: after) ∧ p = ⟨literal, 1, rest⟩ := by
  unfold signTaken at h
  split at h
  · cases h
  · cases h
  · next hzero hpower =>
    cases h
    exact ⟨hzero, hpower, rfl⟩

theorem signed_off {input : List Char}
    (h : (ctx.foldsSign && atNumber ctx.locale (dropBlanks input)) = false) :
    signed? ctx input = .ok none := by
  have hoff : ¬(ctx.foldsSign && atNumber ctx.locale (dropBlanks input)) = true := by
    rw [h]
    exact Bool.false_ne_true
  rw [signed?, signedLiteral?, dif_neg hoff]
  rfl

theorem signed_eq {input : List Char}
    (h : (ctx.foldsSign && atNumber ctx.locale (dropBlanks input)) = true) :
    signed? ctx input =
      ((read ctx.locale true (scan ctx.locale (dropBlanks input)).1 : Except _ (Expr T)) >>=
        fun literal =>
          .ok (signTaken literal (dropBlanks (scan ctx.locale (dropBlanks input)).2))) := by
  rw [signed?, signedLiteral?, dif_pos h]
  cases (read ctx.locale true (scan ctx.locale (dropBlanks input)).1 : Except _ (Expr T)) with
  | error error => rfl
  | ok literal =>
    change _ = Except.ok (signTaken literal (dropBlanks (scan ctx.locale (dropBlanks input)).2))
    dsimp only
    split
    · rfl
    · next hpower _ => rw [hpower, signTaken_power]; rfl
    · next hzero hlength hpower =>
      have hother : ∀ after, dropBlanks (scan ctx.locale (dropBlanks input)).2 ≠ '^' :: after :=
        fun after heq => hpower after (heq ▸ hlength) heq (proof_irrel_heq _ _)
      rw [signTaken_some (hzero ·) hother]
      rfl

/-! ## Operands -/

/-- What a minus sign does to what stands after it. -/
def negated (reader : Reader T) (input : List Char) :
    Option (Piece (Expr T)) → Except FormulaError (Piece (Expr T))
  | some p => .ok p
  | none => reader.find signStrength input >>= fun p =>
      Piece.checked ⟨.neg p.value, p.depth + 1, p.rest⟩

/-- Takes the closing parenthesis after an expression. -/
def closed (ctx : Context T) (p : Piece (Expr T)) : Except FormulaError (Piece (Expr T)) :=
  match dropBlanks p.rest with
  | ')' :: rest => .ok ⟨p.value, p.depth, rest⟩
  | rest => .error (unexpected ctx rest)

omit [Numeric T] in
theorem closed_closing {p : Piece (Expr T)} {rest : List Char}
    (h : dropBlanks p.rest = ')' :: rest) : closed ctx p = .ok ⟨p.value, p.depth, rest⟩ := by
  simp only [closed, h]

/-- What stands in front of a text as an operand. -/
def findOperand (ctx : Context T) (reader : Reader T) :
    List Char → Except FormulaError (Piece (Expr T))
  | [] => .error .unexpectedEnd
  | c :: rest =>
    if c = '-' then signed? ctx rest >>= negated reader rest
    else if c = '+' then reader.find signStrength rest
    else if c = '(' then reader.find 0 rest >>= closed ctx
    else if atNumber ctx.locale (c :: rest) then
      read ctx.locale false (scan ctx.locale (c :: rest)).1 >>= fun literal =>
        .ok ⟨literal, 1, (scan ctx.locale (c :: rest)).2⟩
    else if hname : isNameStart c then (named ctx reader c rest hname).map Parsed.piece
    else .error (unexpected ctx (c :: rest))

/-- Where a number stands, it is the operand. -/
theorem findOperand_number (hlocale : ctx.locale.Distinct) {cs : List Char}
    (h : atNumber ctx.locale cs = true) :
    findOperand ctx reader cs =
      (read ctx.locale false (scan ctx.locale cs).1 >>= fun literal =>
        .ok ⟨literal, 1, (scan ctx.locale cs).2⟩) := by
  cases cs with
  | nil => cases h
  | cons c rest =>
    have hne : ∀ {d : Char}, d.isDigit = false → d ≠ '.' → d ≠ ',' → c ≠ d :=
      ne_of_atNumber hlocale h
    rw [findOperand, if_neg (hne rfl (by decide) (by decide)), if_neg (hne rfl (by decide) (by decide)),
      if_neg (hne rfl (by decide) (by decide)), if_pos h]

theorem operand_eq (input : List Char) :
    (operand ctx reader input).map Parsed.piece = findOperand ctx reader (dropBlanks input) := by
  rw [operand]
  split
  · next h => rw [h]; rfl
  · next c rest h =>
    have hinput : findOperand ctx reader (dropBlanks input) = findOperand ctx reader (c :: rest) := by
      rw [h]
    rw [hinput, findOperand]
    dsimp only
    by_cases hminus : c = '-'
    · rw [if_pos hminus, if_pos hminus, signed?]
      cases signedLiteral? ctx rest with
      | error error => rfl
      | ok literal? =>
        cases literal? with
        | some p => rfl
        | none =>
          change _ = (reader.find signStrength rest >>= _)
          rw [Reader.find]
          cases reader signStrength rest with
          | error error => rfl
          | ok p =>
            change (checked _).map Parsed.piece = Piece.checked _
            unfold checked Piece.checked
            split <;> split <;> first | rfl | contradiction
    rw [if_neg hminus, if_neg hminus]
    by_cases hplus : c = '+'
    · rw [if_pos hplus, if_pos hplus, Reader.find]
      cases reader signStrength rest <;> rfl
    rw [if_neg hplus, if_neg hplus]
    by_cases hopening : c = '('
    · rw [if_pos hopening, if_pos hopening, Reader.find]
      cases reader 0 rest with
      | error error => rfl
      | ok p =>
        change _ = closed ctx p.piece
        dsimp only
        split
        · next rest' hrest => simp only [closed, Parsed.piece, hrest]; rfl
        · next hclosing =>
          unfold closed
          split
          · next rest' hrest => exact (hclosing _ hrest).elim
          · rfl
    rw [if_neg hopening, if_neg hopening]
    by_cases hnumber : atNumber ctx.locale (c :: rest) = true
    · rw [dif_pos hnumber, if_pos hnumber]
      cases (read ctx.locale false (scan ctx.locale (c :: rest)).1 : Except _ (Expr T)) <;> rfl
    rw [dif_neg hnumber, if_neg hnumber]
    by_cases hname : isNameStart c = true
    · rw [dif_pos hname, dif_pos hname]
      cases named ctx reader c rest hname <;> rfl
    · rw [dif_neg hname, dif_neg hname]
      rfl

/-! ## Expressions -/

theorem find_zero (strength : Nat) (input : List Char) :
    (level ctx 0).find strength input = .error (.tooDeep maxDepth) :=
  rfl

theorem find_succ (budget strength : Nat) (input : List Char) :
    (level ctx (budget + 1)).find strength input =
      (findOperand ctx (level ctx budget) (dropBlanks input) >>=
        extend (level ctx budget) strength) := by
  rw [← operand_eq, Reader.find, level]
  cases operand ctx (level ctx budget) input with
  | error error => rfl
  | ok first =>
    change _ = extend (level ctx budget) strength first.piece
    dsimp only
    unfold extend Parsed.piece
    cases infixes (level ctx budget) strength first.expr first.depth first.rest <;> rfl

omit [Numeric T] in
theorem length_lt_of_find {strength : Nat} {input : List Char} {p : Piece (Expr T)}
    (h : reader.find strength input = .ok p) : p.rest.length < input.length := by
  unfold Reader.find at h
  cases hread : reader strength input with
  | error error => rw [hread] at h; cases h
  | ok q =>
    rw [hread] at h
    cases h
    exact q.shorter

/-- Refuses a text that goes on after an expression. -/
def completed (ctx : Context T) (p : Piece (Expr T)) : Except FormulaError (Expr T) :=
  match dropBlanks p.rest with
  | [] => .ok p.value
  | c :: rest => .error (unexpected ctx (c :: rest))

theorem whole_eq {input : List Char} (h : dropBlanks input ≠ []) :
    whole ctx input = ((level ctx maxDepth).find 0 input >>= completed ctx) := by
  rw [whole, if_neg (mt all_isBlank_iff.1 h), Reader.find]
  cases level ctx maxDepth 0 input with
  | error error => rfl
  | ok p =>
    change _ = completed ctx p.piece
    dsimp only
    unfold completed Parsed.piece
    cases dropBlanks p.rest <;> rfl

end Reading

end Formulary.Parser
