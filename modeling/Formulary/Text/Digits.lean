/-!
# Text/Digits — whole numbers in decimal digits

`decimal` writes a natural number and `ofDigits` reads one; `ofDigits_decimal` says that reading
undoes writing. Digits are the ASCII ones.
-/

namespace Formulary.Text

/-- The value of a digit. -/
def digitValue (c : Char) : Nat :=
  c.toNat - 0x30

/-- The digit of a number below ten. -/
def digitChar (n : Nat) : Char :=
  Char.ofNat (0x30 + n)

theorem digitValue_digitChar {n : Nat} (h : n < 10) : digitValue (digitChar n) = n := by
  have hn : n = 0 ∨ n = 1 ∨ n = 2 ∨ n = 3 ∨ n = 4 ∨ n = 5 ∨ n = 6 ∨ n = 7 ∨ n = 8 ∨ n = 9 := by
    omega
  rcases hn with rfl | rfl | rfl | rfl | rfl | rfl | rfl | rfl | rfl | rfl <;> rfl

/-- The number that `n` becomes when a digit is written after it. -/
def pushDigit (n : Nat) (c : Char) : Nat :=
  10 * n + digitValue c

/-- The number written by a text of digits; an empty text stands for zero. -/
def ofDigits (cs : List Char) : Nat :=
  cs.foldl pushDigit 0

@[simp] theorem ofDigits_nil : ofDigits [] = 0 := rfl

@[simp] theorem ofDigits_concat (cs : List Char) (c : Char) :
    ofDigits (cs ++ [c]) = 10 * ofDigits cs + digitValue c := by
  simp [ofDigits, pushDigit]

/-- A power of ten. -/
def tenPower (k : Nat) : Nat :=
  Nat.pow 10 k

theorem tenPower_succ (k : Nat) : tenPower (k + 1) = tenPower k * 10 := rfl

theorem tenPower_add (j k : Nat) : tenPower (j + k) = tenPower j * tenPower k :=
  Nat.pow_add 10 j k

theorem foldl_pushDigit (n : Nat) (cs : List Char) :
    cs.foldl pushDigit n = n * tenPower cs.length + ofDigits cs := by
  induction cs generalizing n with
  | nil => exact (Nat.mul_one n).symm
  | cons c cs ih =>
    have hc : ofDigits (c :: cs) = cs.foldl pushDigit (pushDigit 0 c) := rfl
    rw [List.foldl_cons, hc, ih, ih (pushDigit 0 c), List.length_cons, tenPower_succ]
    simp only [pushDigit, Nat.add_mul]
    rw [Nat.mul_comm 10 n, Nat.mul_assoc, Nat.mul_comm 10 (tenPower cs.length)]
    omega

/-- What is written before other digits counts that many powers of ten. -/
theorem ofDigits_append (cs ds : List Char) :
    ofDigits (cs ++ ds) = ofDigits cs * tenPower ds.length + ofDigits ds := by
  rw [ofDigits, List.foldl_append, foldl_pushDigit]
  rfl

/-- Zeros in front of a number do not count. -/
@[simp] theorem ofDigits_replicate_zero (k : Nat) : ofDigits (List.replicate k '0') = 0 := by
  induction k with
  | zero => rfl
  | succ k ih =>
    rw [List.replicate_succ', ofDigits_concat, ih]
    rfl

/-- A natural number in decimal digits, without leading zeros. -/
def decimal (n : Nat) : List Char :=
  if n < 10 then [digitChar n] else decimal (n / 10) ++ [digitChar (n % 10)]

/-- **Reading undoes writing.** -/
theorem ofDigits_decimal (n : Nat) : ofDigits (decimal n) = n := by
  induction n using decimal.induct with
  | case1 n h => rw [decimal, if_pos h]; simp [ofDigits, pushDigit, digitValue_digitChar h]
  | case2 n h ih =>
    rw [decimal, if_neg h, ofDigits_concat, ih, digitValue_digitChar (Nat.mod_lt n (by decide))]
    omega

/-- An integer in decimal digits, negative ones after a minus sign. -/
def signedDecimal (i : Int) : List Char :=
  if i < 0 then '-' :: decimal i.natAbs else decimal i.natAbs

/-- The text of a number with zeros in front of it, at least `width` characters wide. -/
def padded (width n : Nat) : List Char :=
  List.replicate (width - (decimal n).length) '0' ++ decimal n

/-- Whether every character is a digit. An empty text qualifies. -/
def allDigits (cs : List Char) : Bool :=
  cs.all Char.isDigit

/-- Reads an integer with an optional sign that 32 bits hold. -/
def readInt32? (cs : List Char) : Option Int :=
  let (negative, digits) :=
    match cs with
    | '-' :: digits => (true, digits)
    | '+' :: digits => (false, digits)
    | digits => (false, digits)
  if digits ≠ [] ∧ allDigits digits then
    let value : Int := if negative then -(ofDigits digits : Int) else ofDigits digits
    if -2147483648 ≤ value ∧ value < 2147483648 then some value else none
  else none

end Formulary.Text
