import Formulary.Proofs.Number.Canonical
import Formulary.Proofs.Parser.Scanning

/-!
# Proofs/Number/Machine — reading decimal text with bytes and words

`ofDecimal?` reads a list of characters and computes with numbers of any size. `Machine.readDecimal` is
the same reader on the bytes of a text, with signed words of 32 and 128 bits and unsigned ones of 8, 32
and 128 bits. It goes step by step, and where a step is not checked, it stops as soon as the result is not
the exact one: at a slice that cuts a character, a sum that leaves its word, a conversion that changes a
number. It also stops where a step is checked, but the limits on digits and places should make the check
superfluous (`Stop.limit`): when digits, a power of ten or a widened remainder reach `2 ^ 128`.
-/

namespace Formulary.Fixed

open Text

/-- Why the machine stops without a number. -/
inductive Stop where
  /-- The text stands for no number, or for none that a word holds. -/
  | refused
  /-- A slice of a text that does not start and end at boundaries. -/
  | boundary
  /-- A result that its word does not hold. -/
  | range
  /-- A division by zero. -/
  | divisor
  /-- A number that the limits on digits and places should keep below `2 ^ 128`. -/
  | limit
deriving DecidableEq

/-- Steps that may stop. -/
abbrev Machine : Type → Type :=
  Except Stop

namespace Machine

variable {α : Type}

/-! ## Operations -/

/-- A value that has to be there. -/
def need (stop : Stop) : Option α → Machine α
  | some a => pure a
  | none => throw stop

/-- An unsigned word of 128 bits. -/
def word128 (n : Nat) : Machine Nat :=
  need .range (below128 n)

/-- A signed word of 128 bits. -/
def int128 (i : Int) : Machine Int :=
  if -170141183460469231731687303715884105728 ≤ i ∧ i < 170141183460469231731687303715884105728 then
    pure i
  else throw .range

/-- An unsigned word of 32 bits. -/
def word32 (i : Int) : Machine Nat :=
  if 0 ≤ i ∧ i < 4294967296 then pure i.toNat else throw .range

/-- A signed word of 32 bits. -/
def int32 (i : Int) : Machine Int :=
  if IsInt32 i then pure i else throw .range

def quotient (a b : Nat) : Machine Nat :=
  if b = 0 then throw .divisor else pure (a / b)

def remainder (a b : Nat) : Machine Nat :=
  if b = 0 then throw .divisor else pure (a % b)

/-- The value of a digit's byte. -/
def byteValue (b : UInt8) : Machine Nat :=
  if 48 ≤ b.toNat then pure (b.toNat - 48) else throw .range

/-- The text between two positions. -/
def slice (text : String) (start stop : Nat) : Machine String :=
  if h : Parser.IsBoundary text start ∧ Parser.IsBoundary text stop ∧ start ≤ stop then
    pure (text.extract ⟨⟨start⟩, h.1⟩ ⟨⟨stop⟩, h.2.1⟩)
  else throw .boundary

@[simp] theorem need_some (stop : Stop) (a : α) : need stop (some a) = pure a := rfl

@[simp] theorem need_none (stop : Stop) : need (α := α) stop none = throw stop := rfl

theorem need_bind {β : Type} (stop : Stop) (x : Option α) (f : α → Option β) :
    need stop (x >>= f) = need stop x >>= fun a => need stop (f a) := by
  cases x <;> rfl

theorem word128_of_lt {n : Nat} (h : n < limit128) : word128 n = pure n :=
  congrArg (need .range) (if_pos h)

theorem int128_of_natAbs_lt {i : Int} (h : i.natAbs < 170141183460469231731687303715884105728) :
    int128 i = pure i :=
  if_pos (by omega)

theorem quotient_of_pos (a : Nat) {b : Nat} (h : 0 < b) : quotient a b = pure (a / b) :=
  if_neg (Nat.ne_of_gt h)

theorem remainder_of_pos (a : Nat) {b : Nat} (h : 0 < b) : remainder a b = pure (a % b) :=
  if_neg (Nat.ne_of_gt h)

/-- **A slice that cuts no character is made of whole characters.** -/
theorem slice_eq {text : String} {front middle rest : List Char}
    (h : text.toList = front ++ (middle ++ rest)) :
    slice text (Parser.byteSize front) (Parser.byteSize front + Parser.byteSize middle) =
      pure (String.ofList middle) := by
  have hmiddle : middle ++ rest <:+ text.toList := h ▸ List.suffix_append front _
  have hrest : rest <:+ text.toList := (List.suffix_append middle rest).trans hmiddle
  have hstart : Parser.offset text (middle ++ rest) = Parser.byteSize front := by
    rw [Parser.offset, ← Parser.byteSize_toList, h, Parser.byteSize_append, Nat.add_sub_cancel]
  have hstop : Parser.offset text rest = Parser.byteSize front + Parser.byteSize middle := by
    rw [Parser.offset, ← Parser.byteSize_toList, h, ← List.append_assoc, Parser.byteSize_append,
      Nat.add_sub_cancel, Parser.byteSize_append]
  rw [← hstop, ← hstart, slice]
  have hle : Parser.offset text (middle ++ rest) ≤ Parser.offset text rest := by omega
  rw [dif_pos ⟨Parser.isBoundary_offset hmiddle, Parser.isBoundary_offset hrest, hle⟩,
    Parser.extract_offset hmiddle]

example : slice "é" 0 1 = throw .boundary := by decide

/-! ## Texts -/

def bytes (text : String) : List UInt8 :=
  text.toByteArray.data.toList

def isDigitByte (b : UInt8) : Bool :=
  (Char.ofUInt8 b).isDigit

/-- The position of the first character with a property. -/
def find? (text : String) (p : Char → Bool) : Option Nat :=
  if text.toList.any p then some (Parser.byteSize (text.toList.takeWhile (!p ·))) else none

/-- The texts before and after the byte at which the first character with a property starts. -/
def cutAt? (text : String) (p : Char → Bool) : Machine (Option (String × String)) :=
  match find? text p with
  | some i => do return some (← slice text 0 i, ← slice text (i + 1) text.utf8ByteSize)
  | none => pure none

section

variable {text : String} {p : Char → Bool}

theorem slice_front {front rest : List Char} (h : text.toList = front ++ rest) :
    slice text 0 (Parser.byteSize front) = pure (String.ofList front) := by
  have hslice := @slice_eq text [] front rest h
  rwa [show Parser.byteSize [] = 0 from rfl, Nat.zero_add] at hslice

theorem slice_rest {front rest : List Char} (h : text.toList = front ++ rest) :
    slice text (Parser.byteSize front) text.utf8ByteSize = pure (String.ofList rest) := by
  have hslice := slice_eq (h.trans (congrArg (front ++ ·) (List.append_nil rest).symm))
  rwa [← Parser.byteSize_append, ← h, Parser.byteSize_toList] at hslice

/-- What is behind a character of a single byte. -/
theorem slice_behind {front rest : List Char} {c : Char} (h : text.toList = front ++ c :: rest)
    (hc : c.utf8Size = 1) :
    slice text (Parser.byteSize front + 1) text.utf8ByteSize = pure (String.ofList rest) := by
  have hfront : text.toList = (front ++ [c]) ++ rest := by
    rwa [List.append_assoc, List.singleton_append]
  have hslice := slice_rest hfront
  rwa [Parser.byteSize_append, show Parser.byteSize [c] = 1 from (Nat.zero_add _).trans hc] at hslice

theorem cutAt?_of_nil (h : text.toList.dropWhile (!p ·) = []) : cutAt? text p = pure none := by
  have hnone : ¬text.toList.any p = true := by
    intro hany
    obtain ⟨c, hc, hp⟩ := List.any_eq_true.1 hany
    have hnot := List.dropWhile_eq_nil_iff.1 h c hc
    rw [hp] at hnot
    cases hnot
  rw [cutAt?, find?, if_neg hnone]

/-- A text is cut in front of and behind a character of a single byte. -/
theorem cutAt?_of_cons {c : Char} {rest : List Char} (h : text.toList.dropWhile (!p ·) = c :: rest)
    (hp : ∀ c, p c = true → c.utf8Size = 1) :
    cutAt? text p =
      pure (some (String.ofList (text.toList.takeWhile (!p ·)), String.ofList rest)) := by
  have hsplit : text.toList = text.toList.takeWhile (!p ·) ++ c :: rest := by
    rw [← h, List.takeWhile_append_dropWhile]
  have hc : p c = true := by
    have hhead := List.head?_dropWhile_not (!p ·) text.toList
    rw [h] at hhead
    simpa using hhead
  have hany : text.toList.any p = true :=
    List.any_eq_true.2 ⟨c, hsplit ▸ List.mem_append_right _ (List.mem_cons_self), hc⟩
  rw [cutAt?, find?, if_pos hany]
  dsimp only
  rw [slice_front hsplit, pure_bind, slice_behind hsplit (hp c hc)]
  rfl

end

theorem bytes_ofList (cs : List Char) :
    bytes (String.ofList cs) = cs.flatMap String.utf8EncodeChar := by
  rw [bytes, String.toByteArray_ofList, List.utf8Encode, List.data_toByteArray]

theorem bytes_append (cs ds : List Char) :
    bytes (String.ofList cs) ++ bytes (String.ofList ds) = bytes (String.ofList (cs ++ ds)) := by
  rw [bytes_ofList, bytes_ofList, bytes_ofList, List.flatMap_append]

/-- The byte of a digit. -/
theorem exists_digitByte {c : Char} (h : c.isDigit = true) :
    ∃ b, String.utf8EncodeChar c = [b] ∧ Char.ofUInt8 b = c := by
  obtain ⟨b, hb, hencodes⟩ := Parser.encodes_head c
  have hsize := hencodes.utf8Size_eq_one Parser.isDigit_of_large h
  have hbyte : Char.ofUInt8 b = c :=
    (hencodes.resolve_right fun hlarge => by simp [Parser.isDigit_of_large c hlarge.2] at h).1
  rw [String.utf8EncodeChar_eq_singleton hsize] at hb ⊢
  cases hb
  exact ⟨_, rfl, hbyte⟩

theorem all_isDigitByte (c : Char) : (String.utf8EncodeChar c).all isDigitByte = c.isDigit := by
  cases hdigit : c.isDigit with
  | true =>
    obtain ⟨b, hb, rfl⟩ := exists_digitByte hdigit
    rw [hb, List.all_cons, List.all_nil, Bool.and_true, isDigitByte, hdigit]
  | false =>
    obtain ⟨b, hb, hencodes⟩ := Parser.encodes_head c
    obtain ⟨rest, hrest⟩ := List.head?_eq_some_iff.1 hb
    have hb := hencodes.apply_eq Parser.isDigit_of_large
    rw [hrest, List.all_cons, isDigitByte, hb, hdigit, Bool.false_and]

/-- **All bytes are digits exactly if all characters are.** -/
theorem all_bytes (cs : List Char) : (bytes (String.ofList cs)).all isDigitByte = allDigits cs := by
  rw [bytes_ofList, List.all_flatMap, allDigits]
  exact congrArg cs.all (funext all_isDigitByte)

theorem byteValue_of_isDigit {b : UInt8} (h : isDigitByte b = true) :
    byteValue b = pure (digitValue (Char.ofUInt8 b)) := by
  have hcode : 48 ≤ b.toNat := by
    simp only [isDigitByte, Char.isDigit, Bool.and_eq_true, decide_eq_true_eq,
      UInt32.le_iff_toNat_le] at h
    exact h.1
  exact if_pos hcode

theorem byteSize_of_allDigits {cs : List Char} (h : allDigits cs = true) :
    Parser.byteSize cs = cs.length := by
  induction cs with
  | nil => rfl
  | cons c cs ih =>
    obtain ⟨hc, hcs⟩ := Bool.and_eq_true_iff.1 h
    obtain ⟨b, hb, -⟩ := exists_digitByte hc
    have hsize : c.utf8Size = 1 := by rw [← String.length_utf8EncodeChar, hb, List.length_singleton]
    rw [Parser.byteSize_cons, hsize, ih hcs, List.length_cons, Nat.add_comm]

/-- A text without zeros in front. -/
def trimStart (text : String) : String :=
  String.ofList (text.toList.dropWhile (· = '0'))

/-- A text without zeros behind. -/
def trimEnd (text : String) : String :=
  String.ofList (text.toList.reverse.dropWhile (· = '0')).reverse

/-! ## Cutting the text -/

/-- A literal with its digits as texts. -/
structure Parts where
  negative : Bool
  whole : String
  fraction : String
  exponent : Int

/-- Cuts a text at its first exponent mark and reads the exponent. -/
def takeExponent (text : String) : Machine (String × Int) := do
  match ← cutAt? text isExponentMark with
  | some (mantissa, digits) => return (mantissa, ← need .refused (readInt32? digits.toList))
  | none => return (text, 0)

/-- Takes a sign off the front. -/
def takeSign (text : String) : Machine (Bool × String) :=
  match Parser.byteAt? text 0 with
  | some '-' => do return (true, ← slice text 1 text.utf8ByteSize)
  | some '+' => do return (false, ← slice text 1 text.utf8ByteSize)
  | _ => pure (false, text)

/-- The texts before and after the point. -/
def splitPoint (body : String) : Machine (String × String) := do
  return (← cutAt? body (· = '.')).getD (body, "")

/-- Cuts a text into its parts. -/
def readParts (text : String) : Machine Parts := do
  let (mantissa, exponent) ← takeExponent text
  let (negative, body) ← takeSign mantissa
  let (whole, fraction) ← splitPoint body
  if whole.isEmpty ∧ fraction.isEmpty then throw .refused
  else if (bytes whole ++ bytes fraction).all isDigitByte then
    return ⟨negative, whole, fraction, exponent⟩
  else throw .refused

/-! ## Gathering the digits -/

/-- A text, cut off behind some bytes. -/
def atMost (limit : Nat) (text : String) : Machine String :=
  if text.utf8ByteSize > limit then slice text 0 limit else pure text

/-- The digits that are read, before and after the point. -/
def significant (whole fraction : String) : Machine (String × String) := do
  let whole := trimStart whole
  if whole.utf8ByteSize > 20 then throw .refused
  else return (whole, ← atMost (max (28 - whole.utf8ByteSize) 18) (trimEnd fraction))

/-- Writes a digit after a number. -/
def pushByte (n : Nat) (b : UInt8) : Machine Nat := do
  let shifted ← need .limit (below128 (n * 10))
  need .limit (below128 (shifted + (← byteValue b)))

/-- A number as its digits are read from left to right. -/
def gather (digits : List UInt8) : Machine Nat :=
  digits.foldlM pushByte 0

/-- How many decimal places a number has, given its digits after the point. -/
def scaleOf (fraction : String) (exponent : Int) : Machine Int := do
  let scale := (← int32 fraction.utf8ByteSize) - exponent
  if IsInt32 scale then return scale else throw .refused

/-! ## Bringing it to 32 fractional bits -/

/-- The raw value of a whole number and some zeros. -/
def shift (n : Nat) (scale : Int) : Machine Nat := do
  let factor ← need .refused (powerOfTen? scale.natAbs)
  let whole ← need .refused (below128 (n * factor))
  need .refused (widen? whole)

/-- A quotient, rounded to nearest. -/
def nearest (a b : Nat) : Machine Nat := do
  let doubled ← word128 ((← remainder a b) * 2)
  word128 ((← quotient a b) + if b ≤ doubled then 1 else 0)

/-- A number without its last `excess` digits, rounded to nearest. -/
def drop (n excess : Nat) : Machine Nat := do
  let grid ← need .limit (powerOfTen? excess)
  nearest n grid

/-- The raw value nearest to `n / 10 ^ scale`, half way going up. -/
def divide (n scale : Nat) : Machine Nat := do
  let divisor ← need .range (powerOfTen? scale)
  let whole ← need .refused (widen? (← quotient n divisor))
  let numerator ← need .limit (widen? (← remainder n divisor))
  let fraction ← nearest numerator divisor
  need .refused (below128 (whole + fraction))

/-- The raw value of a number with decimal places, but not more than 66. -/
def round (n : Nat) (scale : Int) : Machine Nat := do
  if 28 < scale then
    let excess ← word32 (← int32 (scale - 28))
    divide (← drop n excess) 28
  else divide n (← word32 scale)

/-- The number with a magnitude as its raw value. -/
def store (negative : Bool) (magnitude : Nat) : Machine Fixed := do
  if negative then
    if magnitude > 9223372036854775808 then throw .refused
    else
      let wide ← int128 magnitude
      let negated ← int128 (-wide)
      need .range (narrow? negated)
  else need .refused (narrow? magnitude)

/-- The number `n / 10 ^ scale` with a sign. -/
def assemble (negative : Bool) (n : Nat) (scale : Int) : Machine Fixed := do
  if scale ≤ 0 then store negative (← shift n scale)
  else if 66 < scale then return zero
  else store negative (← round n scale)

/-- The number of a literal. -/
def convert (parts : Parts) : Machine Fixed := do
  let (whole, fraction) ← significant parts.whole parts.fraction
  let n ← gather (bytes whole ++ bytes fraction)
  if n = 0 then return zero
  else assemble parts.negative n (← scaleOf fraction parts.exponent)

/-- Reads a fixed-point number from canonical text. -/
def readDecimal (text : String) : Machine Fixed := do
  convert (← readParts text)

end Machine

end Formulary.Fixed
