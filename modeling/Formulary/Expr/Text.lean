import Formulary.Expr.Basic
import Formulary.Text.Digits
import Formulary.Text.Quoted

/-!
# Expr/Text — expressions as text

Two renderings with every operator in parentheses. `display` is for people: names stand as written.
`key` identifies an expression: names are quoted and numbers take the form that tells them apart, so
that different expressions have different keys. Both are built back to front: `writeKey e rest` is
the key of `e` with `rest` after it.
-/

namespace Formulary.Expr

open Text

variable {T : Type} [Numeric T]

mutual

/-- The key of an expression, followed by a text. -/
def writeKey (rest : List Char) : Expr T → List Char
  | int i => signedDecimal i.toInt ++ rest
  | const x => '#' :: (Numeric.debug x ++ rest)
  | var name => quoted name.toList ++ rest
  | binary op left right =>
    '(' :: writeKey (' ' :: (op.symbol ++ ' ' :: writeKey (')' :: rest) right)) left
  | compare op left right =>
    '(' :: writeKey (' ' :: (op.symbol ++ ' ' :: writeKey (')' :: rest) right)) left
  | neg operand => '(' :: '-' :: writeKey (')' :: rest) operand
  | call name arguments => quoted name.toList ++ '(' :: writeKeys (')' :: rest) arguments

/-- The keys of expressions with commas between them, followed by a text. -/
def writeKeys (rest : List Char) : List (Expr T) → List Char
  | [] => rest
  | [e] => writeKey rest e
  | e :: more => writeKey (',' :: ' ' :: writeKeys rest more) e

end

/-- The text that identifies an expression. -/
def key (e : Expr T) : String :=
  String.ofList (writeKey [] e)

mutual

/-- The readable form of an expression, followed by a text. -/
def writeDisplay (rest : List Char) : Expr T → List Char
  | int i => signedDecimal i.toInt ++ rest
  | const x => '#' :: (Numeric.display x ++ rest)
  | var name => name.toList ++ rest
  | binary op left right =>
    '(' :: writeDisplay (' ' :: (op.symbol ++ ' ' :: writeDisplay (')' :: rest) right)) left
  | compare op left right =>
    '(' :: writeDisplay (' ' :: (op.symbol ++ ' ' :: writeDisplay (')' :: rest) right)) left
  | neg operand => '(' :: '-' :: writeDisplay (')' :: rest) operand
  | call name arguments => name.toList ++ '(' :: writeDisplays (')' :: rest) arguments

/-- The readable forms of expressions with commas between them, followed by a text. -/
def writeDisplays (rest : List Char) : List (Expr T) → List Char
  | [] => rest
  | [e] => writeDisplay rest e
  | e :: more => writeDisplay (',' :: ' ' :: writeDisplays rest more) e

end

/-- The readable form of an expression. -/
def display (e : Expr T) : String :=
  String.ofList (writeDisplay [] e)

end Formulary.Expr
