import Formulary.Number.Binary64.Parts
import Formulary.Number.Basic

/-!
# Number/Fixed/Basic — fixed-point numbers with 32 fractional bits

A `Fixed` holds its value times `2 ^ 32` as a signed 64-bit word. Every operation computes the exact
integer and then asks `narrow?` whether a word holds it: `toInt_raw_of_narrow?` says that what fits is
kept unchanged and `narrow?_eq_none_iff` that nothing else is refused.
-/

namespace Formulary

/-- A fixed-point number: `raw` is its value times `2 ^ 32`. -/
structure Fixed where
  raw : Int64
deriving DecidableEq

namespace Fixed

/-- The raw value of one, `2 ^ 32`. -/
def unit : Int := 4294967296

/-- The raw value as an integer. -/
def rawInt (x : Fixed) : Int :=
  x.raw.toInt

theorem neg_le_rawInt (x : Fixed) : -9223372036854775808 ≤ x.rawInt :=
  Int64.le_toInt x.raw

theorem rawInt_lt (x : Fixed) : x.rawInt < 9223372036854775808 :=
  Int64.toInt_lt x.raw

theorem rawInt_injective {x y : Fixed} (h : x.rawInt = y.rawInt) : x = y := by
  obtain ⟨x⟩ := x
  obtain ⟨y⟩ := y
  simpa [rawInt, Int64.toInt_inj] using h

/-- The number with a raw value, taken modulo the word size. -/
def ofRaw (i : Int) : Fixed :=
  ⟨Int64.ofInt i⟩

/-- Whether a word holds an integer: the bounds are `-2 ^ 63` and `2 ^ 63`. -/
def Fits (i : Int) : Prop :=
  -9223372036854775808 ≤ i ∧ i < 9223372036854775808

instance (i : Int) : Decidable (Fits i) :=
  inferInstanceAs (Decidable (_ ∧ _))

theorem rawInt_ofRaw {i : Int} (h : Fits i) : (ofRaw i).rawInt = i :=
  Int64.toInt_ofInt_of_le h.1 h.2

@[simp] theorem ofRaw_rawInt (x : Fixed) : ofRaw x.rawInt = x :=
  rawInt_injective (rawInt_ofRaw ⟨neg_le_rawInt x, rawInt_lt x⟩)

/-- The number with a raw value, if a word holds that value. -/
def narrow? (i : Int) : Option Fixed :=
  if Fits i then some (ofRaw i) else none

theorem narrow?_eq_none_iff {i : Int} : narrow? i = none ↔ ¬ Fits i := by
  simp [narrow?]

/-- What fits is kept unchanged. -/
theorem toInt_raw_of_narrow? {i : Int} {x : Fixed} (h : narrow? i = some x) : x.rawInt = i := by
  unfold narrow? at h
  split at h
  · next hi => cases h; exact rawInt_ofRaw hi
  · cases h

/-! ## Particular numbers -/

def minValue : Fixed := ofRaw (-9223372036854775808)

def maxValue : Fixed := ofRaw 9223372036854775807

def zero : Fixed := ofRaw 0

def one : Fixed := ofRaw unit

/-- A whole number. -/
def ofInt32 (i : Int32) : Fixed :=
  ofRaw (i.toInt * unit)

/-! ## Exact arithmetic -/

def add? (a b : Fixed) : Option Fixed :=
  narrow? (a.rawInt + b.rawInt)

def sub? (a b : Fixed) : Option Fixed :=
  narrow? (a.rawInt - b.rawInt)

/-- The product before it is brought back to 32 fractional bits. -/
def wideProduct (a b : Fixed) : Int :=
  a.rawInt * b.rawInt

/-- The product, rounded down. -/
def mul? (a b : Fixed) : Option Fixed :=
  narrow? (wideProduct a b / unit)

/-- The dividend with 32 more fractional bits. -/
def wideDividend (a : Fixed) : Int :=
  a.rawInt * unit

/-- The quotient, cut off towards zero. -/
def div? (a b : Fixed) : Option Fixed :=
  if b.rawInt = 0 then none else narrow? ((wideDividend a).tdiv b.rawInt)

/-- The remainder with the sign of the dividend. There is none where the quotient of the raw values
does not fit. -/
def mod? (a b : Fixed) : Option Fixed :=
  if b.rawInt = 0 ∨ (a = minValue ∧ b.rawInt = -1) then none
  else narrow? (a.rawInt.tmod b.rawInt)

def neg? (a : Fixed) : Option Fixed :=
  narrow? (-a.rawInt)

/-! ## Arithmetic with errors -/

/-- A missing result as an overflow. -/
def orOverflow (x : Option Fixed) : Except ArithmeticError Fixed :=
  match x with
  | some x => .ok x
  | none => .error .overflow

def add (a b : Fixed) : Except ArithmeticError Fixed :=
  orOverflow (add? a b)

def sub (a b : Fixed) : Except ArithmeticError Fixed :=
  orOverflow (sub? a b)

def mul (a b : Fixed) : Except ArithmeticError Fixed :=
  orOverflow (mul? a b)

def div (a b : Fixed) : Except ArithmeticError Fixed :=
  if b.rawInt = 0 then .error .divideByZero else orOverflow (div? a b)

/-- The one remainder that `mod?` lacks for a divisor other than zero is zero. -/
def mod (a b : Fixed) : Except ArithmeticError Fixed :=
  if b.rawInt = 0 then .error .divideByZero else .ok ((mod? a b).getD zero)

def neg (a : Fixed) : Except ArithmeticError Fixed :=
  orOverflow (neg? a)

def abs (a : Fixed) : Except ArithmeticError Fixed :=
  if a.rawInt < 0 then neg a else .ok a

/-! ## Rounding to whole numbers -/

/-- The whole part, rounded down. -/
def intPart (x : Fixed) : Int :=
  x.rawInt / unit

/-- What the raw value has beyond the whole part. -/
def fracPart (x : Fixed) : Int :=
  x.rawInt % unit

/-- The number without its fractional bits. -/
def floorValue (x : Fixed) : Fixed :=
  ofRaw (x.intPart * unit)

def floor (x : Fixed) : Except ArithmeticError Fixed :=
  .ok (floorValue x)

def ceiling (x : Fixed) : Except ArithmeticError Fixed :=
  if x.fracPart = 0 then .ok x else add (floorValue x) one

def truncate (x : Fixed) : Except ArithmeticError Fixed :=
  if x.rawInt < 0 then ceiling x else floor x

/-! ## Floats -/

/-- The nearest fixed-point number; a value half way between two goes away from zero. -/
def ofFloat (x : Float) : Except ArithmeticError Fixed :=
  match Binary64.Parts.ofFloat x with
  | .finite negative units =>
    let raw : Int := ((units + 1 <<< 1041) >>> 1042 : Nat)
    orOverflow (narrow? (if negative then -raw else raw))
  | _ => .error .notRepresentable

/-- The nearest float. -/
def toFloat (x : Fixed) : Float :=
  Float.ofInt x.rawInt / Float.ofInt unit

end Fixed

end Formulary
