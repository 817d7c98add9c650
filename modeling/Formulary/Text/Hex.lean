/-!
# Text/Hex — whole numbers in hexadecimal digits

`hexDigits` writes a natural number and `ofHex?` reads one, with small letters only.
`ofHex_hexDigits` says that reading undoes writing.
-/

namespace Formulary.Text

/-- The hexadecimal digit of a number below sixteen. -/
def hexDigit (n : Nat) : Char :=
  if n < 10 then Char.ofNat (0x30 + n) else Char.ofNat (0x57 + n)

/-- The value of a hexadecimal digit. -/
def hexValue? (c : Char) : Option Nat :=
  if '0' ≤ c ∧ c ≤ '9' then some (c.toNat - 0x30)
  else if 'a' ≤ c ∧ c ≤ 'f' then some (c.toNat - 0x57)
  else none

theorem hexValue_hexDigit {n : Nat} (h : n < 16) : hexValue? (hexDigit n) = some n := by
  have key : ∀ n : Fin 16, hexValue? (hexDigit n) = some n.val := by decide
  exact key ⟨n, h⟩

/-- A number in hexadecimal, without leading zeros. -/
def hexDigits (n : Nat) : List Char :=
  if n < 16 then [hexDigit n] else hexDigits (n / 16) ++ [hexDigit (n % 16)]

/-- The number that `n` becomes when a hexadecimal digit is written after it. -/
def pushHex? (n : Nat) (c : Char) : Option Nat :=
  (hexValue? c).map (16 * n + ·)

/-- The number written by a text of hexadecimal digits; an empty text stands for zero. -/
def ofHex? (cs : List Char) : Option Nat :=
  cs.foldlM pushHex? 0

/-- **Reading undoes writing.** -/
theorem ofHex_hexDigits (n : Nat) : ofHex? (hexDigits n) = some n := by
  induction n using hexDigits.induct with
  | case1 n h => rw [hexDigits, if_pos h]; simp [ofHex?, pushHex?, hexValue_hexDigit h]
  | case2 n h ih =>
    rw [ofHex?] at ih
    rw [hexDigits, if_neg h, ofHex?, List.foldlM_append, ih]
    simp [pushHex?, hexValue_hexDigit (Nat.mod_lt n (by decide : 0 < 16))]
    omega

end Formulary.Text
