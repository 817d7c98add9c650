import Formulary.Number.Binary64.Shortest

/-!
# Number/Binary64/Text — floats as text

Two printed forms over the shortest digits. `display` is always positional and writes whole numbers
without a point. `debug` always has a point or an exponent, and writes an exponent below `10 ^ -4`
and from `10 ^ 16` on. `read?` accepts both, and the words for infinity and not-a-number.
-/

namespace Formulary.Binary64

open Text

/-- Digits written out with a point in its place; `unit` follows a number without one. -/
def positional (d : Decimal) (unit : List Char) : List Char :=
  let digits := decimal d.digits
  let point := (digits.length : Int) + d.exponent
  if point ≤ 0 then ['0', '.'] ++ List.replicate (-point).toNat '0' ++ digits
  else if digits.length ≤ point then
    digits ++ List.replicate (point.toNat - digits.length) '0' ++ unit
  else digits.take point.toNat ++ ['.'] ++ digits.drop point.toNat

/-- One digit before the point and a power of ten. -/
def scientific (d : Decimal) : List Char :=
  let digits := decimal d.digits
  let power := (digits.length : Int) + d.exponent - 1
  let mantissa := if digits.length ≤ 1 then digits else digits.take 1 ++ ['.'] ++ digits.drop 1
  mantissa ++ ['e'] ++ signedDecimal power

/-- The text of a positive float in the form that always shows that it is a float. -/
def debugPositive (units : Nat) : List Char :=
  let d := shortest units
  let power := ((decimal d.digits).length : Int) + d.exponent - 1
  if -4 ≤ power ∧ power < 16 then positional d ['.', '0'] else scientific d

/-- The text of a float, given the one for finite floats without their sign. -/
def withSign (magnitude : Nat → List Char) (x : Float) : List Char :=
  let sign (negative : Bool) : List Char := if negative then ['-'] else []
  match Parts.ofFloat x with
  | .nan => ['N', 'a', 'N']
  | .infinite negative => sign negative ++ ['i', 'n', 'f']
  | .finite negative units => sign negative ++ magnitude units

/-- The short form: `1`, `0.5`, `-0`. -/
def display (x : Float) : List Char :=
  withSign (fun units => if units = 0 then ['0'] else positional (shortest units) []) x

/-- The form that tells floats apart: `1.0`, `0.5`, `-0.0`, `1e16`. -/
def debug (x : Float) : List Char :=
  withSign (fun units => if units = 0 then ['0', '.', '0'] else debugPositive units) x

/-! ## Reading -/

/-- Reads an exponent: nothing, or a letter, an optional sign and digits. -/
def readExponent? : List Char → Option Int
  | [] => some 0
  | mark :: rest =>
    let (negative, digits) :=
      match rest with
      | '-' :: digits => (true, digits)
      | '+' :: digits => (false, digits)
      | digits => (false, digits)
    if (mark = 'e' ∨ mark = 'E') ∧ digits ≠ [] ∧ allDigits digits then
      some (if negative then -(ofDigits digits : Int) else ofDigits digits)
    else none

/-- Reads digits with at most one point among them, and an exponent. -/
def readDecimal? (cs : List Char) : Option Decimal :=
  let whole := cs.takeWhile Char.isDigit
  let rest := cs.dropWhile Char.isDigit
  let (fraction, rest) :=
    match rest with
    | '.' :: rest => (rest.takeWhile Char.isDigit, rest.dropWhile Char.isDigit)
    | rest => ([], rest)
  if whole = [] ∧ fraction = [] then none
  else (readExponent? rest).map fun power => ⟨ofDigits (whole ++ fraction), power - fraction.length⟩

/-- Reads a float without its sign. -/
def readMagnitude? (cs : List Char) : Option Float :=
  let word := String.ofList (cs.map Char.toLower)
  if word = "inf" ∨ word = "infinity" then some (Float.ofBits 0x7FF0000000000000)
  else if word = "nan" then some nan
  else (readDecimal? cs).map Decimal.toFloat

/-- Reads a float. -/
def read? : List Char → Option Float
  | '-' :: rest => (readMagnitude? rest).map Float.neg
  | '+' :: rest => readMagnitude? rest
  | cs => readMagnitude? cs

end Formulary.Binary64
