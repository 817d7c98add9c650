import Formulary.Expr.Depth
import Formulary.Function.Registry
import Formulary.Parser.Literal

/-!
# Parser/Basic — from formula text to expressions

Operators are told apart by how strongly they bind: comparisons loosest, then sums, products, signs
and powers. `infixes` extends an expression by operators as long as they bind strongly enough;
`level` reads a whole expression with a budget of nested expressions, so that the recursion ends
with the budget. What is read so far is always shorter than before (`Parsed.shorter`), which ends the
two loops. Positions in errors count the bytes before the rest of the text.
-/

namespace Formulary.Parser

open Text

/-! ## Operators -/

/-- An operator between two operands. -/
inductive Infix where
  | binary (op : BinaryOp)
  | compare (op : CompareOp)
deriving DecidableEq, Repr

namespace Infix

/-- How strongly an operator binds what stands before it. -/
def left : Infix → Nat
  | compare _ => 1
  | binary .add | binary .sub => 3
  | binary .mul | binary .div | binary .mod => 5
  | binary .power => 9

/-- How strongly operators have to bind to belong to what stands after an operator. Powers group to
the right, all else to the left. -/
def right : Infix → Nat
  | compare _ => 2
  | binary .add | binary .sub => 4
  | binary .mul | binary .div | binary .mod => 6
  | binary .power => 9

/-- The expression with an operator at its root. -/
def build {T : Type} (op : Infix) (left right : Expr T) : Expr T :=
  match op with
  | binary op => .binary op left right
  | compare op => .compare op left right

end Infix

/-- How strongly operators have to bind to belong to what stands after a sign. -/
def signStrength : Nat := 7

/-- Takes an operator off the front of a text. -/
def infix? : List Char → Option (Infix × List Char)
  | '+' :: rest => some (.binary .add, rest)
  | '-' :: rest => some (.binary .sub, rest)
  | '*' :: rest => some (.binary .mul, rest)
  | '/' :: rest => some (.binary .div, rest)
  | '%' :: rest => some (.binary .mod, rest)
  | '^' :: rest => some (.binary .power, rest)
  | '=' :: '=' :: rest => some (.compare .eq, rest)
  | '=' :: rest => some (.compare .eq, rest)
  | '!' :: '=' :: rest => some (.compare .ne, rest)
  | '<' :: '>' :: rest => some (.compare .ne, rest)
  | '<' :: '=' :: rest => some (.compare .le, rest)
  | '>' :: '=' :: rest => some (.compare .ge, rest)
  | '<' :: rest => some (.compare .lt, rest)
  | '>' :: rest => some (.compare .gt, rest)
  | _ => none

theorem length_lt_of_infix? {cs rest : List Char} {op : Infix} (h : infix? cs = some (op, rest)) :
    rest.length < cs.length := by
  unfold infix? at h
  split at h <;> simp only [Option.some.injEq, Prod.mk.injEq, reduceCtorEq] at h <;>
    obtain ⟨-, rfl⟩ := h <;> simp only [List.length_cons] <;> omega

/-! ## Names -/

/-- Whether a name can start with a character. Names are ASCII. -/
def isNameStart (c : Char) : Bool :=
  c.isAlpha || c = '_'

/-- Whether a name can go on with a character. -/
def isNameChar (c : Char) : Bool :=
  c.isAlphanum || c = '_'

theorem isNameChar_of_isNameStart {c : Char} (h : isNameStart c = true) : isNameChar c = true := by
  simp only [isNameStart, Bool.or_eq_true] at h
  rcases h with h | h <;> simp [isNameChar, Char.isAlphanum, h]

/-! ## What is read, and from where -/

/-- What a text is read against. -/
structure Context (T : Type) where
  locale : Locale
  functions : FunctionRegistry T
  constants : ConstantRegistry T
  /-- Whether a minus sign before a number becomes part of the number. -/
  foldsSign : Bool
  /-- How many bytes the whole text has. -/
  size : Nat

/-- How many bytes a text has. -/
def byteSize (cs : List Char) : Nat :=
  cs.foldl (fun n c => n + c.utf8Size) 0

/-- An expression read off the front of a text, with its depth. The rest is shorter than `bound`. -/
structure Parsed (T : Type) (bound : Nat) where
  expr : Expr T
  depth : Nat
  rest : List Char
  shorter : rest.length < bound

/-- The same outcome for a longer text. -/
def Parsed.weaken {T : Type} {m n : Nat} (p : Parsed T m) (h : m ≤ n) : Parsed T n :=
  ⟨p.expr, p.depth, p.rest, Nat.lt_of_lt_of_le p.shorter h⟩

/-- The arguments of a call read off the front of a text, with the depth of the deepest. -/
structure Arguments (T : Type) (bound : Nat) where
  exprs : List (Expr T)
  depth : Nat
  rest : List Char
  shorter : rest.length < bound

/-- Reads an expression made of operators that bind at least as strongly as asked for. -/
abbrev Reader (T : Type) : Type :=
  (strength : Nat) → (input : List Char) → Except FormulaError (Parsed T input.length)

section Reading

variable {T : Type}

/-- The error at the front of a rest: a token that does not belong there, or none at all. -/
def unexpected (ctx : Context T) : List Char → FormulaError
  | [] => .unexpectedEnd
  | c :: rest => .unexpectedToken (ctx.size - byteSize (c :: rest))

/-- Refuses an expression with too many levels. -/
def checked {bound : Nat} (p : Parsed T bound) : Except FormulaError (Parsed T bound) :=
  if maxDepth < p.depth then .error (.tooDeep maxDepth) else .ok p

/-! ## Operators after an operand -/

/-- Extends an expression by the operators after it, as long as they bind strongly enough. -/
def infixes (reader : Reader T) (strength : Nat) (left : Expr T) (depth : Nat)
    (input : List Char) : Except FormulaError (Parsed T (input.length + 1)) :=
  have hblanks := length_dropBlanks_le input
  match h : infix? (dropBlanks input) with
  | none => .ok ⟨left, depth, dropBlanks input, by omega⟩
  | some (op, after) =>
    have hop := length_lt_of_infix? h
    if op.left < strength then .ok ⟨left, depth, dropBlanks input, by omega⟩
    else
      match reader op.right after with
      | .error error => .error error
      | .ok right =>
        have hright := right.shorter
        if maxDepth < max depth right.depth + 1 then .error (.tooDeep maxDepth)
        else
          match infixes reader strength (op.build left right.expr) (max depth right.depth + 1)
              right.rest with
          | .error error => .error error
          | .ok p => .ok (p.weaken (by omega))
termination_by input.length

/-! ## Operands -/

/-- Reads the arguments of a call up to its closing parenthesis. -/
def arguments (ctx : Context T) (reader : Reader T) (input : List Char) :
    Except FormulaError (Arguments T input.length) :=
  match reader 0 input with
  | .error error => .error error
  | .ok first =>
    have hfirst := first.shorter
    have hblanks := length_dropBlanks_le first.rest
    match h : dropBlanks first.rest with
    | [] => .error .unexpectedEnd
    | c :: rest =>
      have hrest := congrArg List.length h
      if c = ctx.locale.argument then
        match arguments ctx reader rest with
        | .error error => .error error
        | .ok more =>
          .ok ⟨first.expr :: more.exprs, max first.depth more.depth, more.rest, by
            have := more.shorter
            simp only [List.length_cons] at hrest
            omega⟩
      else if c = ')' then
        .ok ⟨[first.expr], first.depth, rest, by
          simp only [List.length_cons] at hrest
          omega⟩
      else .error (unexpected ctx (c :: rest))
termination_by input.length
decreasing_by
  simp only [List.length_cons] at hrest
  omega

/-- Reads what stands after the opening parenthesis of a call. -/
def argumentList (ctx : Context T) (reader : Reader T) (input : List Char) :
    Except FormulaError (Arguments T input.length) :=
  have hblanks := length_dropBlanks_le input
  match h : dropBlanks input with
  | ')' :: rest => .ok ⟨[], 0, rest, by
      have := congrArg List.length h
      simp only [List.length_cons] at this
      omega⟩
  | _ =>
    match arguments ctx reader (dropBlanks input) with
    | .error error => .error error
    | .ok p => .ok ⟨p.exprs, p.depth, p.rest, Nat.lt_of_lt_of_le p.shorter hblanks⟩

/-- The expression of a name by itself: the value of a constant that cannot be overwritten, or else a
variable. -/
def nameExpr (ctx : Context T) (name : String) : Expr T :=
  match ctx.constants.protected? name with
  | some info => .const info.value
  | none => .var name

/-- Reads a name, or a call if an opening parenthesis follows. -/
def named (ctx : Context T) (reader : Reader T) (c : Char) (rest : List Char)
    (hc : isNameStart c = true) : Except FormulaError (Parsed T (rest.length + 1)) :=
  let name := String.ofList ((c :: rest).takeWhile isNameChar)
  let after := (c :: rest).dropWhile isNameChar
  have hafter : after.length ≤ rest.length := by
    simp only [after, List.dropWhile_cons, isNameChar_of_isNameStart hc, if_true]
    exact (List.dropWhile_sublist _).length_le
  have hblanks := length_dropBlanks_le after
  match h : dropBlanks after with
  | '(' :: input =>
    match argumentList ctx reader input with
    | .error error => .error error
    | .ok p =>
      if maxDepth < p.depth + 1 then .error (.tooDeep maxDepth)
      else
        match ctx.functions.resolve name p.exprs.length with
        | .error error => .error error
        | .ok _ => .ok ⟨.call name p.exprs, p.depth + 1, p.rest, by
            have := congrArg List.length h
            have := p.shorter
            simp only [List.length_cons] at *
            omega⟩
  | _ => .ok ⟨nameExpr ctx name, 1, dropBlanks after, by omega⟩

variable [Numeric T]

/-- Reads the number after a minus sign, if the sign belongs to it. It does not before a power, and
not at an integer zero, whose sign would be lost. -/
def signedLiteral? (ctx : Context T) (input : List Char) :
    Except FormulaError (Option (Parsed T (input.length + 1))) :=
  have hblanks := length_dropBlanks_le input
  if h : ctx.foldsSign && atNumber ctx.locale (dropBlanks input) then
    have hscan : (scan ctx.locale (dropBlanks input)).2.length < (dropBlanks input).length :=
      length_scan_lt (Bool.and_eq_true_iff.1 h).2
    match read ctx.locale true (scan ctx.locale (dropBlanks input)).1 with
    | .error error => .error error
    | .ok literal =>
      let rest := dropBlanks (scan ctx.locale (dropBlanks input)).2
      have hrest : rest.length ≤ (scan ctx.locale (dropBlanks input)).2.length :=
        length_dropBlanks_le _
      match literal, rest, hrest with
      | .int 0, _, _ => .ok none
      | _, '^' :: _, _ => .ok none
      | literal, rest, hrest => .ok (some ⟨literal, 1, rest, by omega⟩)
  else .ok none

/-- Reads an operand: a number, a name, a call, an expression in parentheses, or an operand after a
sign. -/
def operand (ctx : Context T) (reader : Reader T) (input : List Char) :
    Except FormulaError (Parsed T input.length) :=
  have hblanks := length_dropBlanks_le input
  match h : dropBlanks input with
  | [] => .error .unexpectedEnd
  | c :: rest =>
    have hlength : rest.length + 1 ≤ input.length := by
      have := congrArg List.length h
      simp only [List.length_cons] at this
      omega
    if c = '-' then
      match signedLiteral? ctx rest with
      | .error error => .error error
      | .ok (some p) => .ok (p.weaken hlength)
      | .ok none =>
        match reader signStrength rest with
        | .error error => .error error
        | .ok p => checked ⟨.neg p.expr, p.depth + 1, p.rest, by have := p.shorter; omega⟩
    else if c = '+' then
      match reader signStrength rest with
      | .error error => .error error
      | .ok p => .ok (p.weaken (by omega))
    else if c = '(' then
      match reader 0 rest with
      | .error error => .error error
      | .ok p =>
        have hp := p.shorter
        have hafter := length_dropBlanks_le p.rest
        match hclose : dropBlanks p.rest with
        | ')' :: rest => .ok ⟨p.expr, p.depth, rest, by
            have := congrArg List.length hclose
            simp only [List.length_cons] at this
            omega⟩
        | rest => .error (unexpected ctx rest)
    else if hnumber : atNumber ctx.locale (c :: rest) then
      match read ctx.locale false (scan ctx.locale (c :: rest)).1 with
      | .error error => .error error
      | .ok literal => .ok ⟨literal, 1, (scan ctx.locale (c :: rest)).2, by
          have := length_scan_lt hnumber
          simp only [List.length_cons] at this
          omega⟩
    else if hname : isNameStart c then
      match named ctx reader c rest hname with
      | .error error => .error error
      | .ok p => .ok (p.weaken hlength)
    else .error (unexpected ctx (c :: rest))

/-! ## Expressions -/

/-- Reads an expression in which at most `budget` expressions nest. -/
def level (ctx : Context T) : (budget : Nat) → Reader T
  | 0, _, _ => .error (.tooDeep maxDepth)
  | budget + 1, strength, input =>
    match operand ctx (level ctx budget) input with
    | .error error => .error error
    | .ok first =>
      match infixes (level ctx budget) strength first.expr first.depth first.rest with
      | .error error => .error error
      | .ok p => .ok (p.weaken first.shorter)

/-- Reads a whole text as an expression. -/
def whole (ctx : Context T) (input : List Char) : Except FormulaError (Expr T) :=
  if input.all isBlank then .error .emptyFormula
  else
    match level ctx maxDepth 0 input with
    | .error error => .error error
    | .ok p =>
      match dropBlanks p.rest with
      | [] => .ok p.expr
      | c :: rest => .error (unexpected ctx (c :: rest))

end Reading

/-- Reads a formula. Calls are checked against the functions, and names of constants that cannot be
overwritten stand for their values. -/
def parse {T : Type} [Numeric T] (locale : Locale) (functions : FunctionRegistry T)
    (constants : ConstantRegistry T) (text : String) : Except FormulaError (Expr T) :=
  whole ⟨locale, functions, constants, true, byteSize text.toList⟩ text.toList

end Formulary.Parser
