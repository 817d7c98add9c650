import Formulary.Proofs.Parser.Bytes

/-!
# Proofs/Parser/Cursor — reading a formula byte by byte

`Parser.parse` takes a text apart as a list of characters. This is the same parser with a cursor in the
bytes of the text: operators, names and exponents are read byte by byte, all else by the character that
starts at the cursor. A look at the text off a boundary stops it (`Halt.panic`), and so does a loop or a
recursion that goes on for longer than the text and the limit on nesting allow (`Halt.endless`). The
cursor records every position that it takes.
-/

namespace Formulary.Parser

open Text

/-- Why reading stops without a result. -/
inductive Halt where
  | error (error : FormulaError)
  /-- A slice of the text that does not start and end at boundaries. -/
  | panic
  /-- A loop with more rounds than the text has bytes, or more nested expressions than the limit. -/
  | endless

/-- Where reading is. -/
structure Cursor where
  pos : Nat
  /-- How many expressions are being read. -/
  nesting : Nat
  /-- Every position so far, the last first. -/
  visited : List Nat
  /-- The most expressions that were being read at a time, one that was refused apart. -/
  deepest : Nat

namespace Cursor

/-- In front of the text. -/
def start : Cursor := ⟨0, 0, [0], 0⟩

/-- The cursor at another position. -/
def moveTo (s : Cursor) (i : Nat) : Cursor :=
  { s with pos := i, visited := i :: s.visited }

/-- The cursor inside one more expression. -/
def enter (s : Cursor) : Cursor :=
  { s with nesting := s.nesting + 1 }

/-- The cursor with its nesting accepted. -/
def accept (s : Cursor) : Cursor :=
  { s with deepest := max s.deepest s.nesting }

/-- The cursor behind an expression. -/
def leave (s : Cursor) : Cursor :=
  { s with nesting := s.nesting - 1 }

end Cursor

/-- Steps of reading, which move the cursor and may stop. -/
abbrev Scan : Type → Type :=
  ExceptT Halt (StateM Cursor)

namespace Scan

variable {α σ : Type}

/-- What reading comes to, and where it ends. -/
def runFrom (m : Scan α) (s : Cursor) : Except Halt α × Cursor :=
  m.run.run s

/-- The position. -/
def here : Scan Nat := do
  return (← get).pos

def moveTo (i : Nat) : Scan Unit :=
  modify (·.moveTo i)

/-- Moves on by some bytes. -/
def advance (n : Nat) : Scan Unit := do
  moveTo ((← here) + n)

def fail (error : FormulaError) : Scan α :=
  throw (.error error)

/-- Refuses what stands at the cursor. -/
def refuse : Scan α := do
  fail (.unexpectedToken (← here))

/-- A step that does not look at the text. -/
def lift (x : Except FormulaError α) : Scan α :=
  match x with
  | .ok a => pure a
  | .error error => fail error

/-- Goes round a loop until it yields a result, a limited number of times. -/
def rounds (body : σ → Scan (σ ⊕ α)) : Nat → σ → Scan α
  | 0, _ => throw .endless
  | n + 1, x => do
    match ← body x with
    | .inl next => rounds body n next
    | .inr result => pure result

variable (text : String)

/-- A loop with no more rounds than the text has bytes, and a last one. -/
def loop (body : σ → Scan (σ ⊕ α)) (x : σ) : Scan α :=
  rounds body (text.utf8ByteSize + 1) x

/-- The character at the cursor. -/
def peek : Scan (Option Char) := do
  let i ← here
  if IsBoundary text i then pure (charAt? text i) else throw .panic

/-- The text between two positions. -/
def slice (start stop : Nat) : Scan String :=
  if h : start ≤ stop ∧ IsBoundary text start ∧ IsBoundary text stop then
    pure (text.extract ⟨⟨start⟩, h.2.1⟩ ⟨⟨stop⟩, h.2.2⟩)
  else throw .panic

/-- One round of skipping blanks. -/
def skipBlank (_ : Unit) : Scan (Unit ⊕ Unit) := do
  match ← peek text with
  | some c =>
    if isBlank c then do
      advance c.utf8Size
      pure (.inl ())
    else pure (.inr ())
  | none => pure (.inr ())

def skipBlanks : Scan Unit :=
  loop text (skipBlank text) ()

/-- One round of skipping a name. -/
def skipNameByte (_ : Unit) : Scan (Unit ⊕ Unit) := do
  match byteAt? text (← here) with
  | some b =>
    if isNameChar b then do
      advance 1
      pure (.inl ())
    else pure (.inr ())
  | none => pure (.inr ())

def skipName : Scan Unit :=
  loop text (skipNameByte text) ()

/-- Takes a character that has to stand at the cursor. -/
def expect (c : Char) : Scan Unit := do
  match ← peek text with
  | some found => if found = c then advance c.utf8Size else refuse
  | none => fail .unexpectedEnd

/-! ## Operators -/

/-- The operator that two bytes start with, and how many of them it takes. -/
def infixOf : Char → Char → Option (Infix × Nat)
  | '+', _ => some (.binary .add, 1)
  | '-', _ => some (.binary .sub, 1)
  | '*', _ => some (.binary .mul, 1)
  | '/', _ => some (.binary .div, 1)
  | '%', _ => some (.binary .mod, 1)
  | '^', _ => some (.binary .power, 1)
  | '=', '=' => some (.compare .eq, 2)
  | '=', _ => some (.compare .eq, 1)
  | '!', '=' => some (.compare .ne, 2)
  | '<', '>' => some (.compare .ne, 2)
  | '<', '=' => some (.compare .le, 2)
  | '>', '=' => some (.compare .ge, 2)
  | '<', _ => some (.compare .lt, 1)
  | '>', _ => some (.compare .gt, 1)
  | _, _ => none

/-- The operator at a position. Past the end stand zeros. -/
def infixAt? (i : Nat) : Option (Infix × Nat) :=
  (byteAt? text i).bind fun b => infixOf b ((byteAt? text (i + 1)).getD '\x00')

/-! ## Numbers -/

/-- The end of a run from a position on, of which every part has a width. -/
def endOfRun (width : Nat → Nat) (i : Nat) : Nat :=
  if i < text.utf8ByteSize ∧ 0 < width i then endOfRun width (i + width i) else i
termination_by text.utf8ByteSize - i

/-- The width of a character of a number. -/
def numberWidth (locale : Locale) (i : Nat) : Nat :=
  match charAt? text i with
  | some c => if locale.isNumberChar c then c.utf8Size else 0
  | none => 0

/-- The width of a digit. -/
def digitWidth (i : Nat) : Nat :=
  if (byteAt? text i).any Char.isDigit then 1 else 0

/-- The end of a sign at a position, which is the position if there is none. -/
def signEnd (i : Nat) : Nat :=
  if (byteAt? text i).any fun b => b = '+' || b = '-' then i + 1 else i

/-- The end of an exponent at a position, which is the position if there is none. -/
def exponentEnd (i : Nat) : Nat :=
  if (byteAt? text i).any fun b => b = 'e' || b = 'E' then
    let digits := signEnd text (i + 1)
    if (byteAt? text digits).any Char.isDigit then endOfRun text (digitWidth text) digits else i
  else i

/-- Takes the text of a number. -/
def number (locale : Locale) : Scan String := do
  let start ← here
  let _ ← slice text start text.utf8ByteSize
  let stop := exponentEnd text (endOfRun text (numberWidth text locale) start)
  moveTo stop
  slice text start stop

/-! ## Operands -/

variable {T : Type} (ctx : Context T)

/-- Whether a number stands at the cursor. -/
def atNumber : Scan Bool := do
  match ← peek text with
  | some c =>
    if c.isDigit then pure true
    else if c = ctx.locale.decimal || c = '.' then do
      let next := (← here) + c.utf8Size
      if IsBoundary text next then pure ((charAt? text next).any Char.isDigit) else pure false
    else pure false
  | none => pure false

/-- Refuses an expression with too many levels. -/
def checkLevels (depth : Nat) : Scan Unit :=
  if maxDepth < depth then fail (.tooDeep maxDepth) else pure ()

/-- Reads one more argument. -/
def argument (reader : Nat → Scan (Expr T × Nat)) (found : List (Expr T) × Nat) :
    Scan ((List (Expr T) × Nat) ⊕ (List (Expr T) × Nat)) := do
  let (e, depth) ← reader 0
  let found := (found.1 ++ [e], max found.2 depth)
  skipBlanks text
  match ← peek text with
  | some c =>
    if c = ctx.locale.argument then do
      advance c.utf8Size
      pure (.inl found)
    else if c = ')' then pure (.inr found)
    else refuse
  | none => fail .unexpectedEnd

/-- Reads the arguments of a call up to its closing parenthesis. -/
def arguments (reader : Nat → Scan (Expr T × Nat)) : Scan (List (Expr T) × Nat) := do
  skipBlanks text
  if (← peek text) = some ')' then pure ([], 0) else loop text (argument text ctx reader) ([], 0)

/-- Reads a name, or a call if an opening parenthesis follows. -/
def named (reader : Nat → Scan (Expr T × Nat)) : Scan (Expr T × Nat) := do
  let start ← here
  skipName text
  let name ← slice text start (← here)
  skipBlanks text
  if (← peek text) = some '(' then do
    advance 1
    let (arguments, depth) ← arguments text ctx reader
    expect text ')'
    checkLevels (depth + 1)
    let _ ← lift (ctx.functions.resolve name arguments.length)
    pure (.call name arguments, depth + 1)
  else pure (nameExpr ctx name, 1)

/-- Whether a number is an integer zero. -/
def isZero : Expr T → Bool
  | .int 0 => true
  | _ => false

variable [Numeric T]

/-- Reads a number. -/
def literal (negative : Bool) : Scan (Expr T) := do
  let digits ← number text ctx.locale
  lift (read ctx.locale negative digits.toList)

/-- Reads the number after a minus sign, or goes back behind the sign if it does not belong to it. -/
def signedLiteral? : Scan (Option (Expr T)) := do
  let start ← here
  skipBlanks text
  if ← atNumber text ctx then do
    let e ← literal text ctx true
    skipBlanks text
    if (← peek text) = some '^' || isZero e then do
      moveTo start
      pure none
    else pure (some e)
  else do
    moveTo start
    pure none

/-- Reads an operand. -/
def operand (reader : Nat → Scan (Expr T × Nat)) : Scan (Expr T × Nat) := do
  skipBlanks text
  match ← peek text with
  | some c =>
    if c = '-' then do
      advance 1
      match ← signedLiteral? text ctx with
      | some e => pure (e, 1)
      | none => do
        let (e, depth) ← reader signStrength
        checkLevels (depth + 1)
        pure (.neg e, depth + 1)
    else if c = '+' then do
      advance 1
      reader signStrength
    else if c = '(' then do
      advance 1
      let found ← reader 0
      skipBlanks text
      expect text ')'
      pure found
    else if ← atNumber text ctx then do
      let e ← literal text ctx false
      pure (e, 1)
    else if isNameStart c then named text ctx reader
    else refuse
  | none => fail .unexpectedEnd

/-! ## Expressions -/

omit [Numeric T] in
/-- Extends an expression by one more operator. -/
def operator (reader : Nat → Scan (Expr T × Nat)) (strength : Nat) (left : Expr T × Nat) :
    Scan ((Expr T × Nat) ⊕ (Expr T × Nat)) := do
  skipBlanks text
  match infixAt? text (← here) with
  | some (op, size) =>
    if op.left < strength then pure (.inr left)
    else do
      advance size
      let right ← reader op.right
      checkLevels (max left.2 right.2 + 1)
      pure (.inl (op.build left.1 right.1, max left.2 right.2 + 1))
  | none => pure (.inr left)

/-- Reads an operand and the operators after it. -/
def expression (reader : Nat → Scan (Expr T × Nat)) (strength : Nat) : Scan (Expr T × Nat) := do
  skipBlanks text
  let first ← operand text ctx reader
  loop text (operator text reader strength) first

/-- Counts an expression as being read. -/
def enter : Scan Unit := do
  modify Cursor.enter
  checkLevels (← get).nesting
  modify Cursor.accept

/-- Counts an expression as read, also if reading it has failed. -/
def leaving (m : Scan α) : Scan α :=
  ExceptT.mk do
    let result ← m.run
    modify Cursor.leave
    pure result

/-- Reads an expression in which no more than `budget` expressions nest. -/
def level : (budget : Nat) → (strength : Nat) → Scan (Expr T × Nat)
  | 0, _ => throw .endless
  | budget + 1, strength => do
    enter
    leaving (expression text ctx (level budget) strength)

/-- Reads a whole text as an expression. The last level of the budget finds that the nesting is too
deep. -/
def whole : Scan (Expr T) := do
  if text.toList.all isBlank then fail .emptyFormula
  else do
    let (e, _) ← level text ctx (maxDepth + 1) 0
    skipBlanks text
    if (← here) = text.utf8ByteSize then pure e else refuse

end Scan

end Formulary.Parser
