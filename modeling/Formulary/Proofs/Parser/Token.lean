import Mathlib
import Formulary.Parser.Basic

/-!
# Proofs/Parser/Token — formula text as tokens

The text of a formula is a row of tokens with blanks between them. `Starts` says that the longest token
at the front of a text is a certain one, and `Lexes` takes off token after token. Under a locale whose
marks are `Distinct`, as they are in every preset one, the first character tells the kind of a token.
-/

namespace Formulary

/-! ## Locales whose marks cannot be mistaken -/

namespace Locale

/-- The locales that come with the library. -/
def presets : List Locale :=
  [english, german, french]

/-- A locale whose marks are no operators, parentheses or letters, and not each other. -/
structure Distinct (locale : Locale) : Prop where
  decimal_eq : locale.decimal = '.' ∨ locale.decimal = ','
  argument_eq : locale.argument = ',' ∨ locale.argument = ';'
  argument_ne : locale.argument ≠ locale.decimal

theorem distinct_of_mem_presets {locale : Locale} (h : locale ∈ presets) : locale.Distinct := by
  simp only [presets, List.mem_cons, List.not_mem_nil, or_false] at h
  rcases h with rfl | rfl | rfl
  · exact ⟨.inl rfl, .inl rfl, by decide⟩
  · exact ⟨.inr rfl, .inr rfl, by decide⟩
  · exact ⟨.inr rfl, .inr rfl, by decide⟩

end Locale

namespace Parser

open Text

/-! ## Tokens -/

/-- The parts that formula text is made of. -/
inductive Token where
  /-- A number as written. -/
  | number (text : List Char)
  | name (text : String)
  | operator (op : Infix)
  | opening
  | closing
  | separator
deriving DecidableEq

/-- A text without blanks in front starts with a token, the longest one of its kind, and goes on with
a rest. -/
inductive Starts (locale : Locale) (cs : List Char) : Token → List Char → Prop where
  | number {text after : List Char} :
    atNumber locale cs = true → scan locale cs = (text, after) → Starts locale cs (.number text) after
  | name {c : Char} {rest : List Char} : isNameStart c = true → cs = c :: rest →
      Starts locale cs (.name (String.ofList (cs.takeWhile isNameChar))) (cs.dropWhile isNameChar)
  | operator {op : Infix} {after : List Char} :
    infix? cs = some (op, after) → Starts locale cs (.operator op) after
  | opening {after : List Char} : cs = '(' :: after → Starts locale cs .opening after
  | closing {after : List Char} : cs = ')' :: after → Starts locale cs .closing after
  | separator {after : List Char} : cs = locale.argument :: after → Starts locale cs .separator after

/-- A text reads as tokens up to a rest, with blanks before any of them and before the rest. -/
inductive Lexes (locale : Locale) : List Char → List Token → List Char → Prop where
  | done {input rest : List Char} : dropBlanks input = dropBlanks rest → Lexes locale input [] rest
  | cons {input after rest : List Char} {t : Token} {ts : List Token} :
    Starts locale (dropBlanks input) t after → Lexes locale after ts rest →
      Lexes locale input (t :: ts) rest

theorem Starts.ne_nil {locale : Locale} {cs after : List Char} {t : Token}
    (h : Starts locale cs t after) : cs ≠ [] := by
  rintro rfl
  cases h with
  | number hnumber _ => cases hnumber
  | name _ hcs => cases hcs
  | operator hop => cases hop
  | opening hcs => cases hcs
  | closing hcs => cases hcs
  | separator hcs => cases hcs

/-! ## Rows of tokens -/

theorem dropBlanks_dropBlanks (cs : List Char) : dropBlanks (dropBlanks cs) = dropBlanks cs := by
  induction cs with
  | nil => rfl
  | cons c cs ih =>
    unfold dropBlanks at ih ⊢
    by_cases hc : isBlank c = true
    · rw [List.dropWhile_cons_of_pos hc, ih]
    · rw [List.dropWhile_cons_of_neg hc, List.dropWhile_cons_of_neg hc]

theorem all_isBlank_iff {cs : List Char} : cs.all isBlank = true ↔ dropBlanks cs = [] := by
  induction cs with
  | nil => exact ⟨fun _ => rfl, fun _ => rfl⟩
  | cons c cs ih =>
    unfold dropBlanks at ih ⊢
    by_cases hc : isBlank c = true
    · rw [List.dropWhile_cons_of_pos hc, List.all_cons, hc, Bool.true_and, ih]
    · rw [List.dropWhile_cons_of_neg hc, List.all_cons, Bool.and_eq_true]
      exact ⟨fun h => absurd h.1 hc, nofun⟩

namespace Lexes

variable {locale : Locale} {input rest : List Char} {ts us : List Token}

theorem refl (locale : Locale) (input : List Char) : Lexes locale input [] input :=
  .done rfl

theorem singleton {t : Token} (h : Starts locale (dropBlanks input) t rest) :
    Lexes locale input [t] rest :=
  .cons h (refl locale rest)

/-- Blanks in front of a text do not matter. -/
theorem of_dropBlanks {input' : List Char} (h : Lexes locale input ts rest)
    (hinput : dropBlanks input' = dropBlanks input) : Lexes locale input' ts rest := by
  cases h with
  | done hrest => exact .done (hinput.trans hrest)
  | cons htoken hmore => exact .cons (by rwa [hinput]) hmore

theorem append {middle : List Char} (h : Lexes locale input ts middle)
    (h' : Lexes locale middle us rest) : Lexes locale input (ts ++ us) rest := by
  induction h with
  | done hrest => exact h'.of_dropBlanks hrest
  | cons htoken _ ih => exact .cons htoken (ih h')

theorem eq_of_nil (h : Lexes locale input [] rest) : dropBlanks input = dropBlanks rest := by
  cases h with
  | done hrest => exact hrest

theorem of_cons {t : Token} (h : Lexes locale input (t :: ts) rest) :
    ∃ after, Starts locale (dropBlanks input) t after ∧ Lexes locale after ts rest := by
  cases h with
  | cons htoken hmore => exact ⟨_, htoken, hmore⟩

/-- A row of tokens can be cut anywhere. -/
theorem of_append (h : Lexes locale input (ts ++ us) rest) :
    ∃ middle, Lexes locale input ts middle ∧ Lexes locale middle us rest := by
  induction ts generalizing input with
  | nil => exact ⟨input, refl locale input, h⟩
  | cons t ts ih =>
    obtain ⟨after, htoken, hmore⟩ := h.of_cons
    obtain ⟨middle, hleft, hright⟩ := ih hmore
    exact ⟨middle, .cons htoken hleft, hright⟩

/-- Blanks in front of the rest do not matter. -/
theorem trans_dropBlanks {rest' : List Char} (h : Lexes locale input ts rest)
    (hrest : dropBlanks rest = dropBlanks rest') : Lexes locale input ts rest' := by
  rw [← List.append_nil ts]
  exact h.append (.done hrest)

end Lexes

/-! ## Operators by their characters -/

/-- Exactly the minus sign is the operator of differences. -/
theorem eq_cons_of_infix?_sub {cs after : List Char}
    (h : infix? cs = some (.binary .sub, after)) : cs = '-' :: after := by
  unfold infix? at h
  split at h <;> cases h
  rfl

theorem eq_cons_of_infix?_add {cs after : List Char}
    (h : infix? cs = some (.binary .add, after)) : cs = '+' :: after := by
  unfold infix? at h
  split at h <;> cases h
  rfl

theorem eq_cons_of_infix?_power {cs after : List Char}
    (h : infix? cs = some (.binary .power, after)) : cs = '^' :: after := by
  unfold infix? at h
  split at h <;> cases h
  rfl

/-! ## Kinds of tokens by their first character -/

theorem ne_of_isNameStart {c d : Char} (h : isNameStart c = true) (hd : isNameStart d = false) :
    c ≠ d := by
  rintro rfl
  rw [h] at hd
  cases hd

theorem ne_of_isDigit {c d : Char} (h : c.isDigit = true) (hd : d.isDigit = false) : c ≠ d := by
  rintro rfl
  rw [h] at hd
  cases hd

/-- Names start with a letter or an underscore, never with a digit. -/
theorem isNameStart_eq_false_of_isDigit {c : Char} (h : c.isDigit = true) :
    isNameStart c = false := by
  simp only [Char.isDigit, Bool.and_eq_true, decide_eq_true_eq, UInt32.le_iff_toNat_le] at h
  rw [Bool.eq_false_iff]
  intro hname
  simp only [isNameStart, Char.isAlpha, Char.isUpper, Char.isLower, Bool.or_eq_true,
    Bool.and_eq_true, decide_eq_true_eq, UInt32.le_iff_toNat_le] at hname
  have h9 : '9'.val.toNat = 57 := rfl
  have hA : 'A'.val.toNat = 65 := rfl
  have ha : 'a'.val.toNat = 97 := rfl
  rcases hname with (hupper | hlower) | rfl
  · omega
  · omega
  · exact absurd h (by decide)

theorem infix?_of_isDigit {c : Char} (h : c.isDigit = true) (rest : List Char) :
    infix? (c :: rest) = none := by
  unfold infix?
  split <;> first | rfl | simp_all

variable {locale : Locale} (hlocale : locale.Distinct)
include hlocale

/-- A number starts with a digit or a decimal mark. -/
theorem lead_of_atNumber {c : Char} {rest : List Char} (h : atNumber locale (c :: rest) = true) :
    c.isDigit = true ∨ c = '.' ∨ c = ',' := by
  simp only [atNumber, Bool.or_eq_true, Bool.and_eq_true, decide_eq_true_eq] at h
  rcases h with hdigit | ⟨hdecimal | hpoint, _⟩
  · exact .inl hdigit
  · rcases hlocale.decimal_eq with hd | hd
    · exact .inr (.inl (hdecimal.trans hd))
    · exact .inr (.inr (hdecimal.trans hd))
  · exact .inr (.inl hpoint)

/-- No other character can stand in front of a number. -/
theorem ne_of_atNumber {c d : Char} {rest : List Char} (h : atNumber locale (c :: rest) = true)
    (hdigit : d.isDigit = false) (hpoint : d ≠ '.') (hcomma : d ≠ ',') : c ≠ d := by
  rcases lead_of_atNumber hlocale h with hc | rfl | rfl
  · exact ne_of_isDigit hc hdigit
  · exact hpoint.symm
  · exact hcomma.symm

theorem not_atNumber {d : Char} {rest : List Char} (hdigit : d.isDigit = false) (hpoint : d ≠ '.')
    (hcomma : d ≠ ',') : ¬atNumber locale (d :: rest) = true :=
  fun h => ne_of_atNumber hlocale h hdigit hpoint hcomma rfl

theorem atNumber_eq_false_of_isNameStart {c : Char} {rest : List Char}
    (h : isNameStart c = true) : atNumber locale (c :: rest) = false := by
  rw [Bool.eq_false_iff]
  intro hnumber
  rcases lead_of_atNumber hlocale hnumber with hdigit | rfl | rfl
  · rw [isNameStart_eq_false_of_isDigit hdigit] at h
    cases h
  · cases h
  · cases h

theorem argument_ne_closing : locale.argument ≠ ')' := by
  rcases hlocale.argument_eq with h | h <;> rw [h] <;> decide

theorem argument_ne_opening : locale.argument ≠ '(' := by
  rcases hlocale.argument_eq with h | h <;> rw [h] <;> decide

theorem infix?_argument (rest : List Char) : infix? (locale.argument :: rest) = none := by
  rcases hlocale.argument_eq with h | h <;> rw [h] <;> rfl

/-- A separator does not start a number. -/
theorem atNumber_argument (rest : List Char) : atNumber locale (locale.argument :: rest) = false := by
  have hpoint : locale.argument ≠ '.' := by
    rcases hlocale.argument_eq with h | h <;> rw [h] <;> decide
  have hdigit : locale.argument.isDigit = false := by
    rcases hlocale.argument_eq with h | h <;> rw [h] <;> rfl
  simp only [atNumber, hdigit, hlocale.argument_ne, hpoint, decide_false, Bool.false_or,
    Bool.false_and]

/-- **Where a number stands, no other token does.** -/
theorem Starts.eq_number {cs after : List Char} {t : Token} (h : Starts locale cs t after)
    (hnumber : atNumber locale cs = true) :
    ∃ text, t = .number text ∧ scan locale cs = (text, after) := by
  cases h with
  | number _ hscan => exact ⟨_, rfl, hscan⟩
  | name hc hcs =>
    rw [hcs, atNumber_eq_false_of_isNameStart hlocale hc] at hnumber
    cases hnumber
  | operator hop =>
    cases cs with
    | nil => cases hop
    | cons c rest =>
      rcases lead_of_atNumber hlocale hnumber with hdigit | rfl | rfl
      · rw [infix?_of_isDigit hdigit] at hop
        cases hop
      · cases hop
      · cases hop
  | opening hcs => exact absurd (hcs ▸ hnumber) (not_atNumber hlocale rfl (by decide) (by decide))
  | closing hcs => exact absurd (hcs ▸ hnumber) (not_atNumber hlocale rfl (by decide) (by decide))
  | separator hcs =>
    rw [hcs, atNumber_argument hlocale] at hnumber
    cases hnumber

/-- **Where a parenthesis closes, no other token stands.** -/
theorem Starts.eq_closing {rest after : List Char} {t : Token}
    (h : Starts locale (')' :: rest) t after) : t = .closing := by
  cases h with
  | number hnumber =>
    exact absurd hnumber (not_atNumber hlocale rfl (by decide) (by decide))
  | name hc hcs =>
    cases hcs
    cases hc
  | operator hop => cases hop
  | opening hcs => cases hcs
  | closing _ => rfl
  | separator hcs => exact absurd (List.cons.inj hcs).1.symm (argument_ne_closing hlocale)

end Parser

end Formulary
