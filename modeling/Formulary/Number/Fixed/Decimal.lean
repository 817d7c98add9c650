import Formulary.Number.Fixed.Basic
import Formulary.Text.Digits

/-!
# Number/Fixed/Decimal — reading fixed-point numbers from decimal text

`ofDecimal?` reads canonical text in four steps: it cuts the text into sign, digits and exponent
(`Literal.read?`), gathers the digits into a significand with a decimal scale (`Literal.scaled?`),
brings that to 32 fractional bits (`Scaled.toRaw?`) and asks for a word that holds the result. The
steps compute with numbers below `2 ^ 128`; where a number may reach that bound, `below128` says so
by having no value.
-/

namespace Formulary.Fixed

open Text

/-- The bound `2 ^ 128`. -/
def limit128 : Nat := 340282366920938463463374607431768211456

/-- A natural number below `2 ^ 128`. -/
def below128 (n : Nat) : Option Nat :=
  if n < limit128 then some n else none

/-- A number with 32 fractional bits, if that is below `2 ^ 128`. -/
def widen? (n : Nat) : Option Nat :=
  below128 (n * 4294967296)

/-- A power of ten below `2 ^ 128`. -/
def powerOfTen? (k : Nat) : Option Nat :=
  if k < 39 then some (tenPower k) else none

/-! ## Cutting the text -/

/-- A number in canonical text: the digits before and after the point and the exponent. -/
structure Literal where
  negative : Bool
  whole : List Char
  fraction : List Char
  exponent : Int

/-- Whether a character introduces an exponent. -/
def isExponentMark (c : Char) : Bool :=
  c = 'e' || c = 'E'

/-- Cuts a text at its first exponent mark and reads the exponent. -/
def cutExponent? (cs : List Char) : Option (List Char × Int) :=
  match cs.dropWhile (!isExponentMark ·) with
  | [] => some (cs, 0)
  | _ :: digits => (readInt32? digits).map fun exponent => (cs.takeWhile (!isExponentMark ·), exponent)

/-- Takes a sign off the front. -/
def cutSign : List Char → Bool × List Char
  | '-' :: rest => (true, rest)
  | '+' :: rest => (false, rest)
  | rest => (false, rest)

/-- Cuts a canonical text into its parts. -/
def Literal.read? (cs : List Char) : Option Literal := do
  let (mantissa, exponent) ← cutExponent? cs
  let (negative, body) := cutSign mantissa
  let whole := body.takeWhile (· ≠ '.')
  let fraction := (body.dropWhile (· ≠ '.')).drop 1
  if whole = [] ∧ fraction = [] then none
  else if allDigits whole && allDigits fraction then some ⟨negative, whole, fraction, exponent⟩
  else none

/-! ## Gathering the digits -/

/-- The number `significand / 10 ^ scale`. -/
structure Scaled where
  significand : Nat
  scale : Int

/-- A number as its digits are read from left to right. -/
def gather? (digits : List Char) : Option Nat :=
  digits.foldlM (fun n c => do below128 ((← below128 (n * 10)) + digitValue c)) 0

/-- The digits before the point without leading zeros. -/
def Literal.wholeDigits (l : Literal) : List Char :=
  l.whole.dropWhile (· = '0')

/-- How many digits after the point still matter: with those before it, they stay below
`2 ^ 128`. -/
def Literal.fractionLimit (l : Literal) : Nat :=
  max (28 - l.wholeDigits.length) 18

/-- The digits after the point without trailing zeros and without those that no longer matter. -/
def Literal.fractionDigits (l : Literal) : List Char :=
  (l.fraction.reverse.dropWhile (· = '0')).reverse.take l.fractionLimit

/-- The significand and scale of a literal. -/
def Literal.scaled? (l : Literal) : Option Scaled := do
  if l.wholeDigits.length > 20 then none
  else
    let significand ← gather? (l.wholeDigits ++ l.fractionDigits)
    if significand = 0 then some ⟨0, 0⟩
    else
      let scale := (l.fractionDigits.length : Int) - l.exponent
      if scale < 2147483648 then some ⟨significand, scale⟩ else none

/-! ## Bringing it to 32 fractional bits -/

/-- A number without its last `excess` digits, rounded to nearest. -/
def dropDigits (n excess : Nat) : Nat :=
  let grid := tenPower excess
  n / grid + if grid ≤ n % grid * 2 then 1 else 0

/-- The raw value nearest to `significand / 10 ^ scale`, half way going up. Quotient and remainder
are treated apart, so that the shifted significand need not fit. -/
def divideScaled? (significand scale : Nat) : Option Nat := do
  let divisor := tenPower scale
  let whole ← widen? (significand / divisor)
  let numerator ← widen? (significand % divisor)
  let roundUp := if divisor ≤ numerator % divisor * 2 then 1 else 0
  below128 (whole + (numerator / divisor + roundUp))

/-- The magnitude of the raw value. -/
def Scaled.toRaw? (s : Scaled) : Option Nat :=
  if s.scale ≤ 0 then do
    let factor ← powerOfTen? s.scale.natAbs
    widen? (← below128 (s.significand * factor))
  else
    let scale := s.scale.toNat
    if 66 < scale then some 0
    else if 28 < scale then divideScaled? (dropDigits s.significand (scale - 28)) 28
    else divideScaled? s.significand scale

/-- Reads a fixed-point number from canonical text. -/
def ofDecimal? (cs : List Char) : Option Fixed := do
  let literal ← Literal.read? cs
  let magnitude ← (← literal.scaled?).toRaw?
  narrow? (if literal.negative then -(magnitude : Int) else magnitude)

end Formulary.Fixed
