import Formulary.Number.Basic
import Formulary.Text.Blank

/-!
# Locale — punctuation of numbers and argument lists

A locale says which characters separate decimals, arguments and groups of digits. `normalize` brings
a number written under a locale to canonical text: grouping marks are dropped and the one decimal
mark becomes a point. A point is understood in every locale, unless the locale groups digits with it
and the number is grouped so (`1.234.567`).
-/

namespace Formulary

open Text

/-- Punctuation of numbers and argument lists. -/
structure Locale where
  decimal : Char
  argument : Char
  /-- The mark between groups of digits, where there is one. -/
  grouping : Option Char
deriving DecidableEq, Repr

namespace Locale

/-- Decimal point; the comma separates arguments, so digits are not grouped. -/
def english : Locale := ⟨'.', ',', none⟩

/-- Decimal comma, arguments separated by semicolons, points between groups. -/
def german : Locale := ⟨',', ';', some '.'⟩

/-- As `german`, with no-break spaces between groups. -/
def french : Locale := ⟨',', ';', some '\u00a0'⟩

/-- The locale of a language. -/
def ofLanguage? (language : String) : Option Locale :=
  if language = "en" then some english
  else if language ∈ ["de", "es", "it", "nl"] then some german
  else if language = "fr" then some french
  else none

/-- The locale of an identifier such as `en-US` or `de_DE`: its language decides. -/
def ofIdentifier? (identifier : String) : Option Locale :=
  let letters := (trim identifier.toList).map fun c => if c = '_' then '-' else c.toLower
  ofLanguage? (String.ofList (letters.takeWhile (· ≠ '-')))

/-- Whether a number under this locale may contain a character. -/
def isNumberChar (locale : Locale) (c : Char) : Bool :=
  c.isDigit || c = locale.decimal || c = '.'
    || (locale.grouping = some c && c ≠ locale.argument)

/-- The no-break spaces, which stand for each other between groups. -/
def isNoBreakSpace (c : Char) : Bool :=
  c = '\u00a0' || c = '\u202f'

/-- Whether a character marks groups of digits. -/
def isGrouping (locale : Locale) (c : Char) : Bool :=
  match locale.grouping with
  | none => false
  | some mark => if isNoBreakSpace mark then isNoBreakSpace c else c = mark

/-! ## Exponents -/

/-- Whether a text is an optional sign with at least one digit after it, and nothing else. -/
def isSignedDigits : List Char → Bool
  | [] => false
  | c :: rest =>
    if c = '+' ∨ c = '-' then !rest.isEmpty && rest.all Char.isDigit
    else (c :: rest).all Char.isDigit

/-- The exponent at the end of a number: it starts at the first `e` or `E` that only an optional
sign and digits follow. -/
def exponentOf : List Char → List Char
  | [] => []
  | c :: rest => if (c = 'e' ∨ c = 'E') ∧ isSignedDigits rest then c :: rest else exponentOf rest

theorem exponentOf_suffix (raw : List Char) : exponentOf raw <:+ raw := by
  induction raw with
  | nil => exact List.suffix_refl []
  | cons c rest ih =>
    unfold exponentOf
    split
    · exact List.suffix_refl _
    · exact ih.trans (List.suffix_cons c rest)

/-- What stands before the exponent of a number. -/
def mantissaOf (raw : List Char) : List Char :=
  raw.take (raw.length - (exponentOf raw).length)

theorem mantissaOf_append_exponentOf (raw : List Char) : mantissaOf raw ++ exponentOf raw = raw := by
  obtain ⟨mantissa, h⟩ := exponentOf_suffix raw
  have hlength := congrArg List.length h
  rw [List.length_append] at hlength
  have : mantissaOf raw = mantissa := by
    rw [mantissaOf, show raw.length - (exponentOf raw).length = mantissa.length by omega]
    conv => lhs; arg 2; rw [← h]
    simp
  rw [this, h]

/-! ## Groups of digits -/

/-- Whether a text consists of groups of exactly three digits between points; `size` characters of
its first group are read already. -/
def groupsOfThree (size : Nat) : List Char → Bool
  | [] => size = 3
  | c :: rest =>
    if c = '.' then size = 3 && groupsOfThree 0 rest
    else c.isDigit && groupsOfThree (size + 1) rest

/-- Whether a number is grouped by points: up to three digits, then groups of three. -/
def isGroupedByPoints (body : List Char) : Bool :=
  let lead := body.takeWhile (· ≠ '.')
  match body.dropWhile (· ≠ '.') with
  | [] => false
  | _ :: rest =>
    1 ≤ lead.length && lead.length ≤ 3 && lead.all Char.isDigit && groupsOfThree 0 rest

/-! ## Canonical text -/

/-- The character that stands for the decimal point in a number without sign and exponent. -/
def decimalMark? (locale : Locale) (body : List Char) : Option Char :=
  if body.contains locale.decimal then some locale.decimal
  else if body.contains '.' && !(locale.grouping = some '.' && isGroupedByPoints body) then some '.'
  else none

/-- Whether a character is the decimal mark of a number. Digits never are. -/
def isMark (mark : Option Char) (c : Char) : Bool :=
  !c.isDigit && some c = mark

/-- What a character of a number becomes in canonical text; grouping marks are dropped. -/
def canonicalChar? (mark : Option Char) (c : Char) : Option Char :=
  if c.isDigit then some c else if isMark mark c then some '.' else none

/-- Whether a number without sign and exponent consists of digits, at least one, and marks, at most
one of them decimal. -/
def isBody (locale : Locale) (mark : Option Char) (body : List Char) : Bool :=
  body.all (fun c => c.isDigit || isMark mark c || locale.isGrouping c)
    && body.countP (isMark mark) ≤ 1 && body.any Char.isDigit

/-- Takes a sign off the front. -/
def splitSign : List Char → List Char × List Char
  | '+' :: rest => (['+'], rest)
  | '-' :: rest => (['-'], rest)
  | rest => ([], rest)

/-- The canonical text of a number, or nothing where the text is not a number. -/
def normalize (locale : Locale) (raw : List Char) : Option (List Char) :=
  let text := trim raw
  let (sign, body) := splitSign (mantissaOf text)
  let mark := locale.decimalMark? body
  if locale.isBody mark body then some (sign ++ body.filterMap (canonicalChar? mark) ++ exponentOf text)
  else none

/-- Reads a number written under a locale. -/
def read? {T : Type} [Numeric T] (locale : Locale) (raw : List Char) : Option T :=
  (locale.normalize raw).bind Numeric.ofCanonical?

end Locale

end Formulary
