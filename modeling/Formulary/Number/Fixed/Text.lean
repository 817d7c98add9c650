import Formulary.Json
import Formulary.Number.Fixed.Decimal
import Formulary.Text.Blank

/-!
# Number/Fixed/Text — fixed-point numbers as text and as data

`display` writes up to ten digits after the point, rounded to nearest and without zeros at the end;
that many are enough to tell any two numbers apart. `debug` shows the raw value.
-/

namespace Formulary.Fixed

open Text

/-- How many values ten digits have. -/
def tenDigitRange : Nat := 10000000000

/-- The fractional bits of a magnitude as ten decimal digits, rounded to nearest. The rounding may
carry. -/
def tenDigits (frac : Nat) : Nat :=
  (frac * tenDigitRange + 2147483648) / 4294967296

/-- A magnitude as text. -/
def displayMagnitude (magnitude : Nat) : List Char :=
  let scaled := tenDigits (magnitude % 4294967296)
  let whole := magnitude / 4294967296 + scaled / tenDigitRange
  let fraction := scaled % tenDigitRange
  if fraction = 0 then decimal whole
  else decimal whole ++ ['.'] ++ ((padded 10 fraction).reverse.dropWhile (· = '0')).reverse

/-- The short form. -/
def display (x : Fixed) : List Char :=
  if x.rawInt < 0 then '-' :: displayMagnitude x.rawInt.natAbs
  else displayMagnitude x.rawInt.natAbs

/-- The form that shows the raw value. -/
def debug (x : Fixed) : List Char :=
  "Fixed64 \x7b raw: ".toList ++ signedDecimal x.rawInt ++ " \x7d".toList

/-- Reads a number from text that may have blanks around it. -/
def read (cs : List Char) : Except ArithmeticError Fixed :=
  match ofDecimal? (trim cs) with
  | some x => .ok x
  | none => .error .notRepresentable

/-! ## Structured data -/

/-- An object with the raw value. -/
def toJson (x : Fixed) : Json :=
  .object [("raw", .ofInt x.rawInt)]

/-- Reads an object with a raw value, or a list of it alone. -/
def ofJson? : Json → Option Fixed
  | .object fields => do narrow? (← (← Json.field? fields "raw").integer?)
  | .array [raw] => do narrow? (← raw.integer?)
  | _ => none

end Formulary.Fixed
