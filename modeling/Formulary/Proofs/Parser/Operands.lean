import Formulary.Proofs.Evaluation.Outcome
import Formulary.Proofs.Parser.Scanning

/-!
# Proofs/Parser/Operands — operands read with a cursor

Given a reader on bytes that finds what a reader on characters finds (`TracksReader`), the operands
around it are the same: numbers with and without a sign, expressions in parentheses, names and calls. A
sign that turns out not to belong to the number after it takes the cursor back.
-/

namespace Formulary.Parser

open Text

/-- A piece as the parser on bytes finds it. -/
def Piece.found {α : Type} (p : Piece α) : (α × Nat) × List Char :=
  ((p.value, p.depth), p.rest)

namespace Scan

variable {text : String} {n : Nat} {rest : List Char} {T γ : Type} {ctx : Context T}
  {reader : Reader T} {scanner : Nat → Scan (Expr T × Nat)}

/-- A reader on bytes finds what a reader on characters finds, with some expressions being read. -/
def TracksReader (text : String) (n : Nat) (scanner : Nat → Scan (Expr T × Nat)) (reader : Reader T) :
    Prop :=
  ∀ strength rest, Tracks text n rest (scanner strength) ((reader.find strength rest).map Piece.found)

theorem unexpected_cons (hsize : ctx.size = text.utf8ByteSize) (c : Char) :
    unexpected ctx (c :: rest) = .unexpectedToken (offset text (c :: rest)) := by
  rw [unexpected, hsize, offset]

/-! ## Numbers -/

theorem tracks_atNumber :
    Tracks text n rest (atNumber text ctx) (.ok (Parser.atNumber ctx.locale rest, rest)) := by
  refine .of_suffix fun hsuffix => tracks_peek.andThen ?_
  cases rest with
  | nil => exact tracks_pure _
  | cons c rest =>
    change Tracks text n (c :: rest) (if c.isDigit = true then _ else _) _
    have hrest : rest <:+ text.toList := (List.suffix_cons c rest).trans hsuffix
    by_cases hdigit : c.isDigit = true
    · rw [if_pos hdigit, Parser.atNumber, hdigit]
      exact tracks_pure _
    rw [if_neg hdigit, Parser.atNumber, Bool.eq_false_iff.2 hdigit]
    by_cases hmark : (c = ctx.locale.decimal || c = '.') = true
    · have hstarts : rest.head?.any Char.isDigit = startsWithDigit rest := by
        cases rest <;> rfl
      rw [if_pos hmark, hmark]
      refine tracks_here.andThen ?_
      rw [← offset_tail hsuffix, if_pos (isBoundary_offset hrest), charAt?_offset hrest, hstarts]
      exact tracks_pure _
    · rw [if_neg hmark, Bool.eq_false_iff.2 hmark]
      exact tracks_pure _

theorem tracks_checked {α β : Type} {p : Piece α} {f : Unit → Scan β}
    {g : Piece α → Except FormulaError γ} {out : γ → β × List Char}
    (h : Tracks text n rest (f ()) ((g p).map out)) :
    Tracks text n rest (checkLevels p.depth >>= f) ((p.checked >>= g).map out) := by
  by_cases hdeep : maxDepth < p.depth
  · rw [checkLevels, if_pos hdeep, Piece.checked_of_lt hdeep]
    exact tracks_tooDeep.andFail
  · rw [checkLevels, if_neg hdeep, Piece.checked_of_le (Nat.not_lt.1 hdeep)]
    exact (tracks_pure ()).andThen h

/-- A piece with its levels checked, and nothing after it. -/
theorem tracks_checked_pure {α β : Type} {p : Piece α} {out : Piece α → β × List Char} {b : β}
    (hout : out p = (b, rest)) :
    Tracks text n rest (do checkLevels p.depth; pure b) (p.checked.map out) := by
  have hok : (p.checked >>= fun q => .ok q) = p.checked := bind_pure _
  rw [← hok]
  refine tracks_checked ?_
  change Tracks text n rest (pure b) (.ok (out p))
  rw [hout]
  exact tracks_pure b

/-- A text that is no number is no error about a place. -/
theorem locates_of_read [Numeric T] {locale : Locale} {negative : Bool} {digits : List Char}
    {error : FormulaError} (h : (read locale negative digits : Except _ (Expr T)) = .error error)
    (s : Cursor) : s.Locates text error := by
  unfold read at h
  split at h
  · cases h
    trivial
  · dsimp only at h
    split at h
    · cases h
    · split at h
      · cases h
      · cases h
        trivial

/-! ## Parentheses -/

theorem closed_end {p : Piece (Expr T)} (h : dropBlanks p.rest = []) :
    closed ctx p = .error .unexpectedEnd := by
  simp only [closed, h]
  rfl

theorem closed_refused {p : Piece (Expr T)} {c : Char} (h : dropBlanks p.rest = c :: rest)
    (hc : c ≠ ')') : closed ctx p = .error (unexpected ctx (c :: rest)) := by
  simp only [closed, h]
  split
  · next heq => exact absurd (List.cons.inj heq).1 hc
  · rfl

theorem tracks_expect_refused {c d : Char} (h : c ≠ d) :
    Tracks text n (c :: rest) (expect text d)
      (.error (.unexpectedToken (offset text (c :: rest)))) := by
  refine tracks_peek.andThen ?_
  change Tracks text n (c :: rest) (if c = d then _ else _) _
  rw [if_neg h]
  exact tracks_refuse

theorem tracks_expect (c : Char) : Tracks text n (c :: rest) (expect text c) (.ok ((), rest)) := by
  refine tracks_peek.andThen ?_
  change Tracks text n (c :: rest) (if c = c then _ else _) _
  rw [if_pos rfl]
  exact tracks_advance rfl

/-- Takes the closing parenthesis after an expression. -/
theorem tracks_closed (hsize : ctx.size = text.utf8ByteSize) (p : Piece (Expr T)) :
    Tracks text n p.rest (do
      skipBlanks text
      expect text ')'
      pure (p.value, p.depth)) ((closed ctx p).map Piece.found) := by
  refine tracks_skipBlanks.andThen ?_
  cases hrest : dropBlanks p.rest with
  | nil =>
    rw [closed_end hrest]
    exact (tracks_peek.andThen tracks_unexpectedEnd).andFail
  | cons c rest =>
    by_cases hclosing : c = ')'
    · subst hclosing
      rw [closed_closing hrest]
      exact (tracks_expect ')').andThen (tracks_pure _)
    · rw [closed_refused hrest hclosing, unexpected_cons hsize]
      exact (tracks_expect_refused hclosing).andFail

/-! ## Arguments -/

/-- The arguments of a call up to its closing parenthesis, after those that have been read. -/
def argumentsFound (read : List (Expr T) × Nat) (more : Piece (List (Expr T))) :
    (List (Expr T) × Nat) × List Char :=
  ((read.1 ++ more.value, max read.2 more.depth), ')' :: more.rest)

theorem argumentsFound_cons (read : List (Expr T) × Nat) (e : Expr T) (depth : Nat)
    (more : Piece (List (Expr T))) :
    argumentsFound read ⟨e :: more.value, max depth more.depth, more.rest⟩ =
      argumentsFound (read.1 ++ [e], max read.2 depth) more := by
  simp [argumentsFound, Nat.max_assoc]

theorem furtherArguments_end {first : Piece (Expr T)} (h : dropBlanks first.rest = []) :
    furtherArguments ctx reader first = .error .unexpectedEnd := by
  simp only [furtherArguments, h]

theorem furtherArguments_refused {first : Piece (Expr T)} {c : Char}
    (h : dropBlanks first.rest = c :: rest) (hseparator : c ≠ ctx.locale.argument) (hclosing : c ≠ ')') :
    furtherArguments ctx reader first = .error (unexpected ctx (c :: rest)) := by
  simp only [furtherArguments, h, if_neg hseparator, if_neg hclosing]

/-- One round of reading arguments: an argument and what stands after it. -/
theorem tracks_argument (reader : Reader T) (hsize : ctx.size = text.utf8ByteSize)
    {first : Piece (Expr T)}
    (hfirst : Tracks text n rest (scanner 0) (.ok first.found)) (read : List (Expr T) × Nat) :
    (∃ after, dropBlanks first.rest = ctx.locale.argument :: after ∧
      Tracks text n rest (argument text ctx scanner read)
        (.ok (.inl (read.1 ++ [first.value], max read.2 first.depth), after))) ∨
    Tracks text n rest (argument text ctx scanner read)
      (((furtherArguments ctx reader first).map (argumentsFound read)).map
        fun p => (.inr p.1, p.2)) := by
  cases hrest : dropBlanks first.rest with
  | nil =>
    right
    rw [furtherArguments_end hrest]
    refine hfirst.andThen (tracks_skipBlanks.andThen ?_)
    rw [hrest]
    exact tracks_peek.andThen tracks_unexpectedEnd
  | cons c after =>
    by_cases hseparator : c = ctx.locale.argument
    · left
      refine ⟨after, by rw [hseparator], hfirst.andThen (tracks_skipBlanks.andThen ?_)⟩
      rw [hrest]
      refine tracks_peek.andThen ?_
      change Tracks text n (c :: after) (if c = ctx.locale.argument then _ else _) _
      rw [if_pos hseparator]
      exact (tracks_advance rfl).andThen (tracks_pure _)
    right
    by_cases hclosing : c = ')'
    · subst hclosing
      rw [furtherArguments_closing hrest (Ne.symm hseparator)]
      refine hfirst.andThen (tracks_skipBlanks.andThen ?_)
      rw [hrest]
      refine tracks_peek.andThen ?_
      change Tracks text n (')' :: after) (if ')' = ctx.locale.argument then _ else _) _
      rw [if_neg hseparator]
      exact tracks_pure _
    · rw [furtherArguments_refused hrest hseparator hclosing, unexpected_cons hsize]
      refine hfirst.andThen (tracks_skipBlanks.andThen ?_)
      rw [hrest]
      refine tracks_peek.andThen ?_
      change Tracks text n (c :: after) (if c = ctx.locale.argument then _
        else if c = ')' then _ else _) _
      rw [if_neg hseparator, if_neg hclosing]
      exact tracks_refuse

/-! ## Calls -/

/-- A call that does not resolve is no error about a place in the text. -/
theorem locates_of_resolve {functions : FunctionRegistry T} {name : String} {count : Nat}
    {error : FormulaError} (h : functions.resolve name count = .error error) (s : Cursor) :
    s.Locates text error := by
  unfold FunctionRegistry.resolve at h
  rcases bind_eq_error h with hlookup | ⟨info, -, h⟩
  · unfold FunctionRegistry.lookup at hlookup
    split at hlookup <;> cases hlookup
    trivial
  · rcases bind_eq_error h with harity | ⟨_, -, h⟩
    · unfold FunctionInfo.checkArity at harity
      split at harity <;> cases harity
      trivial
    · cases h

/-- Takes the closing parenthesis of a call and checks the call. -/
theorem tracks_called (name : String) (found : Piece (List (Expr T))) :
    Tracks text n (')' :: found.rest) (do
      expect text ')'
      checkLevels (found.depth + 1)
      let _ ← lift (ctx.functions.resolve name found.value.length)
      pure (.call name found.value, found.depth + 1)) ((called ctx name found).map Piece.found) := by
  refine (tracks_expect ')').andThen ?_
  refine tracks_checked (p := ⟨Expr.call name found.value, found.depth + 1, found.rest⟩) ?_
  have hresolve : Tracks text n found.rest (lift (ctx.functions.resolve name found.value.length))
      ((ctx.functions.resolve name found.value.length).map fun info => (info, found.rest)) :=
    tracks_lift fun error herror s => locates_of_resolve herror s
  exact Tracks.bind hresolve fun info _ => tracks_pure _

section Readers

variable (hsize : ctx.size = text.utf8ByteSize) (hreader : TracksReader text n scanner reader)
include hsize hreader

theorem tracks_argumentLoop (read : List (Expr T) × Nat) :
    Tracks text n rest (loop text (argument text ctx scanner) read)
      (((Parser.arguments ctx reader rest).map Arguments.piece).map (argumentsFound read)) := by
  refine tracks_loop (fun read rest found => found =
    ((Parser.arguments ctx reader rest).map Arguments.piece).map (argumentsFound read)) ?_ rfl
  rintro read rest found rfl
  have hfirst := hreader 0 rest
  rw [arguments_eq]
  cases hfind : reader.find 0 rest with
  | error error =>
    rw [hfind] at hfirst
    exact .inr hfirst.andFail
  | ok first =>
    rw [hfind] at hfirst
    rcases tracks_argument reader hsize hfirst read with ⟨after, hafter, hround⟩ | hround
    · left
      refine ⟨_, after, ?_, ?_, hround⟩
      · have hshorter := length_lt_of_find hfind
        have hblanks := length_dropBlanks_le first.rest
        rw [hafter, List.length_cons] at hblanks
        omega
      · change (furtherArguments ctx reader first).map _ = _
        rw [furtherArguments_separator hafter]
        cases (Parser.arguments ctx reader after).map Arguments.piece with
        | error error => rfl
        | ok more => exact congrArg Except.ok (argumentsFound_cons ..)
    · exact .inr hround

theorem tracks_arguments :
    Tracks text n rest (arguments text ctx scanner)
      (((argumentList ctx reader rest).map Arguments.piece).map (argumentsFound ([], 0))) := by
  refine tracks_skipBlanks.andThen (tracks_peek.andThen ?_)
  by_cases hclosing : (dropBlanks rest).head? = some ')'
  · obtain ⟨after, hafter⟩ := List.head?_eq_some_iff.1 hclosing
    rw [if_pos hclosing, argumentList_none hafter, hafter]
    exact tracks_pure _
  · have hother : ∀ after, dropBlanks rest ≠ ')' :: after := by
      intro after hafter
      rw [hafter] at hclosing
      exact hclosing rfl
    rw [if_neg hclosing, argumentList_some hother]
    exact tracks_argumentLoop hsize hreader ([], 0)

theorem tracks_named {c : Char} (hc : isNameStart c = true) :
    Tracks text n (c :: rest) (named text ctx scanner)
      (((Parser.named ctx reader c rest hc).map Parsed.piece).map Piece.found) := by
  refine .of_suffix fun hsuffix => tracks_here.andThen (tracks_skipName.andThen ?_)
  refine tracks_here.andThen ((tracks_slice List.takeWhile_append_dropWhile hsuffix).andThen
    (tracks_skipBlanks.andThen (tracks_peek.andThen ?_)))
  by_cases hopening : (dropBlanks ((c :: rest).dropWhile isNameChar)).head? = some '('
  · obtain ⟨input, hinput⟩ := List.head?_eq_some_iff.1 hopening
    rw [if_pos hopening, named_call hc hinput, hinput]
    refine (tracks_advance rfl).andThen ?_
    refine Tracks.bind (tracks_arguments hsize hreader) fun found _ => ?_
    have hfound : argumentsFound ([], 0) found =
        ((found.value, found.depth), ')' :: found.rest) := by
      simp [argumentsFound]
    rw [hfound]
    exact tracks_called _ found
  · have hother : ∀ input, dropBlanks ((c :: rest).dropWhile isNameChar) ≠ '(' :: input := by
      intro input hinput
      rw [hinput] at hopening
      exact hopening rfl
    rw [if_neg hopening, named_alone hc hother]
    exact tracks_pure _

end Readers

/-! ## Signs -/

variable [Numeric T]

theorem tracks_literal (negative : Bool) :
    Tracks text n rest (literal text ctx negative)
      ((read ctx.locale negative (scan ctx.locale rest).1).map
        fun e => (e, (scan ctx.locale rest).2)) := by
  refine (tracks_number ctx.locale).andThen ?_
  rw [String.toList_ofList]
  exact tracks_lift fun error herror s => locates_of_read herror s

/-- The number that takes a sign, or nothing and the text behind the sign. -/
def signedFound (input : List Char) : Option (Piece (Expr T)) → Option (Expr T) × List Char
  | some p => (some p.value, p.rest)
  | none => (none, input)

omit [Numeric T] in
theorem signTaken_eq (e : Expr T) (rest : List Char) :
    signTaken e rest =
      if (rest.head? = some '^' || isZero e) = true then none else some ⟨e, 1, rest⟩ := by
  by_cases hpower : rest.head? = some '^'
  · obtain ⟨after, rfl⟩ := List.head?_eq_some_iff.1 hpower
    rw [signTaken_power, if_pos (by simp)]
  · have hother : ∀ after, rest ≠ '^' :: after := fun after hafter =>
      hpower (List.head?_eq_some_iff.2 ⟨after, hafter⟩)
    by_cases hzero : e = .int 0
    · subst hzero
      have hzero : isZero (Expr.int 0 : Expr T) = true := rfl
      rw [hzero, Bool.or_true, if_pos rfl]
      rfl
    · have hnot : isZero e = false := by
        unfold isZero
        split
        · exact absurd rfl hzero
        · rfl
      rw [signTaken_some hzero hother, if_neg (by simp [hpower, hnot])]

/-- **A sign and the number after it.** -/
theorem tracks_signedLiteral? (hsign : ctx.foldsSign = true) :
    Tracks text n rest (signedLiteral? text ctx) ((signed? ctx rest).map (signedFound rest)) := by
  refine .of_suffix fun hsuffix => tracks_here.andThen (tracks_skipBlanks.andThen
    (tracks_atNumber.andThen ?_))
  by_cases hnumber : Parser.atNumber ctx.locale (dropBlanks rest) = true
  · have hfolds : (ctx.foldsSign && Parser.atNumber ctx.locale (dropBlanks rest)) = true := by
      rw [hsign, hnumber]
      rfl
    rw [if_pos hnumber, signed_eq hfolds]
    refine Tracks.bind (tracks_literal true) fun e _ => ?_
    refine tracks_skipBlanks.andThen (tracks_peek.andThen ?_)
    change Tracks text n _ _ (.ok (signedFound rest (signTaken e (dropBlanks _))))
    rw [signTaken_eq]
    split
    · exact (tracks_moveTo hsuffix).andThen (tracks_pure none)
    · exact tracks_pure (some e)
  · have hfolds : (ctx.foldsSign && Parser.atNumber ctx.locale (dropBlanks rest)) = false := by
      rw [Bool.eq_false_iff.2 hnumber, Bool.and_false]
    rw [if_neg hnumber, signed_off hfolds]
    exact (tracks_moveTo hsuffix).andThen (tracks_pure none)

theorem depth_of_signed {input : List Char} {p : Piece (Expr T)}
    (h : signed? ctx input = .ok (some p)) : p.depth = 1 := by
  cases hfolds : ctx.foldsSign && Parser.atNumber ctx.locale (dropBlanks input) with
  | false =>
    rw [signed_off hfolds] at h
    cases h
  | true =>
    rw [signed_eq hfolds] at h
    obtain ⟨e, -, htaken⟩ := bind_eq_ok h
    obtain ⟨-, -, rfl⟩ := eq_of_signTaken (Except.ok.inj htaken)
    rfl

/-! ## Operands -/

theorem tracks_negated (hsign : ctx.foldsSign = true) (hreader : TracksReader text n scanner reader) :
    Tracks text n rest (do
      match ← signedLiteral? text ctx with
      | some e => pure (e, 1)
      | none => do
        let (e, depth) ← scanner signStrength
        checkLevels (depth + 1)
        pure (.neg e, depth + 1))
      ((signed? ctx rest >>= negated reader rest).map Piece.found) := by
  refine Tracks.bind (tracks_signedLiteral? hsign) fun taken htaken => ?_
  cases taken with
  | some p =>
    have hdepth := depth_of_signed htaken
    have hfound : p.found = ((p.value, 1), p.rest) := by rw [Piece.found, hdepth]
    change Tracks text n p.rest _ (.ok p.found)
    rw [hfound]
    exact tracks_pure _
  | none =>
    refine Tracks.bind (hreader signStrength rest) fun p _ => ?_
    exact tracks_checked_pure (p := ⟨Expr.neg p.value, p.depth + 1, p.rest⟩) rfl

/-- **Operands are the same in bytes.** -/
theorem tracks_operand (rest : List Char) (hsize : ctx.size = text.utf8ByteSize)
    (hsign : ctx.foldsSign = true) (hreader : TracksReader text n scanner reader) :
    Tracks text n rest (operand text ctx scanner)
      ((findOperand ctx reader (dropBlanks rest)).map Piece.found) := by
  refine tracks_skipBlanks.andThen (tracks_peek.andThen ?_)
  cases hrest : dropBlanks rest with
  | nil => exact tracks_unexpectedEnd
  | cons c after =>
    change Tracks text n (c :: after) (if c = '-' then _ else _) _
    rw [findOperand]
    by_cases hminus : c = '-'
    · rw [if_pos hminus, if_pos hminus]
      exact (tracks_advance (by rw [hminus]; rfl)).andThen (tracks_negated hsign hreader)
    rw [if_neg hminus, if_neg hminus]
    by_cases hplus : c = '+'
    · rw [if_pos hplus, if_pos hplus]
      exact (tracks_advance (by rw [hplus]; rfl)).andThen (hreader signStrength after)
    rw [if_neg hplus, if_neg hplus]
    by_cases hopening : c = '('
    · rw [if_pos hopening, if_pos hopening]
      refine (tracks_advance (by rw [hopening]; rfl)).andThen ?_
      exact Tracks.bind (hreader 0 after) fun p _ => tracks_closed hsize p
    rw [if_neg hopening, if_neg hopening]
    refine tracks_atNumber.andThen ?_
    by_cases hnumber : Parser.atNumber ctx.locale (c :: after) = true
    · rw [if_pos hnumber, if_pos hnumber]
      exact Tracks.bind (tracks_literal false) fun e _ => tracks_pure _
    rw [if_neg hnumber, if_neg hnumber]
    by_cases hname : isNameStart c = true
    · rw [if_pos hname, dif_pos hname]
      exact tracks_named hsize hreader hname
    · rw [if_neg hname, dif_neg hname, unexpected_cons hsize]
      exact tracks_refuse

end Scan

end Formulary.Parser
