import Formulary.Number.Binary64.Basic
import Formulary.Number.Fixed.Instance
import Formulary.Parser.Literal
import Formulary.Proofs.Parser.Token
import Formulary.Proofs.Text.Unambiguous

/-!
# Proofs/Parser/Literal — numbers before and after a sign

The parser reads a number after a minus sign with that sign first, and only then finds out that the
sign does not belong to it, because a power follows or because it is zero. That loses nothing: a number
that is read without its sign is read with it (`read_minus`). Of a number type this asks that every
number has a negative, which `SignReadable` says of its canonical text.
-/

namespace Formulary

open Text

/-- Whether a character is a sign of a number. -/
def isSign (c : Char) : Bool :=
  c = '+' || c = '-'

/-- A number type that reads a number after a minus sign wherever it reads it without one. -/
class SignReadable (T : Type) [Numeric T] : Prop where
  ofCanonical?_minus : ∀ {cs : List Char} {x : T}, StopsAt isSign cs →
    Numeric.ofCanonical? cs = some x → ∃ y : T, Numeric.ofCanonical? ('-' :: cs) = some y

theorem Binary64.read?_of_stopsAt {cs : List Char} (h : StopsAt isSign cs) :
    read? cs = readMagnitude? cs := by
  unfold read?
  split
  · exact absurd (h '-' rfl) (by decide)
  · exact absurd (h '+' rfl) (by decide)
  · rfl

instance : SignReadable Float where
  ofCanonical?_minus {cs x} hcs hx := by
    have hx : Binary64.read? cs = some x := hx
    rw [Binary64.read?_of_stopsAt hcs] at hx
    exact ⟨x.neg, congrArg (Option.map Float.neg) hx⟩

/-! ## Fixed-point numbers -/

namespace Fixed

theorem cutSign_of_stopsAt {cs : List Char} (h : StopsAt isSign cs) : cutSign cs = (false, cs) := by
  unfold cutSign
  split
  · exact absurd (h '-' rfl) (by decide)
  · exact absurd (h '+' rfl) (by decide)
  · rfl

/-- A minus sign is no exponent mark. -/
theorem cutExponent?_minus (cs : List Char) :
    cutExponent? ('-' :: cs) = (cutExponent? cs).map fun p => ('-' :: p.1, p.2) := by
  have hdrop : ('-' :: cs).dropWhile (!isExponentMark ·) = cs.dropWhile (!isExponentMark ·) := rfl
  have htake : ('-' :: cs).takeWhile (!isExponentMark ·) = '-' :: cs.takeWhile (!isExponentMark ·) :=
    rfl
  unfold cutExponent?
  rw [hdrop, htake]
  split
  · rfl
  · rw [Option.map_map]
    rfl

theorem stopsAt_of_cutExponent? {cs mantissa : List Char} {exponent : Int}
    (hcs : StopsAt isSign cs) (h : cutExponent? cs = some (mantissa, exponent)) :
    StopsAt isSign mantissa := by
  unfold cutExponent? at h
  split at h
  · cases h
    exact hcs
  · obtain ⟨power, _, heq⟩ := Option.map_eq_some_iff.1 h
    cases heq
    cases cs with
    | nil => exact hcs
    | cons c cs =>
      rw [List.takeWhile_cons]
      split
      · exact hcs
      · exact nofun

/-- The parts of a number after a minus sign differ in the sign alone. -/
theorem Literal.read?_minus {cs : List Char} {literal : Literal} (hcs : StopsAt isSign cs)
    (h : Literal.read? cs = some literal) :
    literal.negative = false ∧ Literal.read? ('-' :: cs) = some { literal with negative := true } := by
  unfold Literal.read? at h ⊢
  rw [cutExponent?_minus]
  cases hcut : cutExponent? cs with
  | none => rw [hcut] at h; cases h
  | some p =>
    obtain ⟨mantissa, exponent⟩ := p
    rw [hcut] at h
    have hsign := cutSign_of_stopsAt (stopsAt_of_cutExponent? hcs hcut)
    have hsign' : cutSign ('-' :: mantissa) = (true, mantissa) := rfl
    simp only [Option.bind_eq_bind, Option.bind_some, hsign] at h
    simp only [Option.map_some, Option.bind_eq_bind, Option.bind_some, hsign']
    split at h
    · cases h
    · next hsome =>
      rw [if_neg hsome]
      split at h
      · next hdigits =>
        cases h
        rw [if_pos hdigits]
        exact ⟨rfl, rfl⟩
      · cases h

theorem fits_of_narrow? {i : Int} {x : Fixed} (h : narrow? i = some x) : Fits i := by
  unfold narrow? at h
  split at h
  · next hfits => exact hfits
  · cases h

/-- A word holds the negative of every magnitude that it holds. -/
theorem fits_neg_natCast {n : Nat} (h : Fits n) : Fits (-(n : Int)) := by
  unfold Fits at h ⊢
  omega

instance : SignReadable Fixed where
  ofCanonical?_minus {cs x} hcs hx := by
    have hx : ofDecimal? cs = some x := hx
    change ∃ y, ofDecimal? ('-' :: cs) = some y
    unfold ofDecimal? at hx ⊢
    simp only [Option.bind_eq_bind, Option.bind_eq_some_iff] at hx
    obtain ⟨literal, hliteral, scaled, hscaled, magnitude, hmagnitude, hx⟩ := hx
    obtain ⟨hnegative, hminus⟩ := Literal.read?_minus hcs hliteral
    have hscaled' : ({ literal with negative := true } : Literal).scaled? = some scaled := hscaled
    rw [hnegative] at hx
    have hfits : Fits (magnitude : Int) := fits_of_narrow? hx
    refine ⟨ofRaw (-magnitude), ?_⟩
    simp only [hminus, Option.bind_eq_bind, Option.bind_some, hscaled', hmagnitude]
    exact if_pos (fits_neg_natCast hfits)

end Fixed

/-! ## Canonical text -/

namespace Text

/-- No visible ASCII character is blank. -/
theorem isBlank_eq_false {c : Char} (hlow : 0x21 ≤ c.toNat) (hhigh : c.toNat ≤ 0x7E) :
    isBlank c = false := by
  rw [Bool.eq_false_iff]
  intro hblank
  obtain ⟨run, hrun, hcovers⟩ := CharSet.has_iff.1 hblank
  have hfirst := Run.first_le_of_covers hcovers
  have hlast := Run.le_last_of_covers hcovers
  have hruns : ∀ run ∈ blanks, run.last < 0x21 ∨ 0x7E < run.first := by decide
  have hrange := hruns run hrun
  omega

theorem isBlank_of_isDigit {c : Char} (h : c.isDigit = true) : isBlank c = false := by
  simp only [Char.isDigit, Bool.and_eq_true, decide_eq_true_eq, UInt32.le_iff_toNat_le] at h
  have hcode : c.toNat = c.val.toNat := rfl
  have h0 : '0'.val.toNat = 48 := rfl
  have h9 : '9'.val.toNat = 57 := rfl
  exact isBlank_eq_false (by omega) (by omega)

theorem isSign_of_isDigit {c : Char} (h : c.isDigit = true) : isSign c = false := by
  rw [isSign, Bool.or_eq_false_iff, decide_eq_false_iff_not, decide_eq_false_iff_not]
  exact ⟨Parser.ne_of_isDigit h rfl, Parser.ne_of_isDigit h rfl⟩

theorem dropBlanks_cons {c : Char} (h : isBlank c = false) (cs : List Char) :
    dropBlanks (c :: cs) = c :: cs := by
  rw [dropBlanks, List.dropWhile_cons, h]
  rfl

theorem StopsAt.of_isPrefix {p : Char → Bool} {cs ds : List Char} (h : StopsAt p cs)
    (hds : ds <+: cs) : StopsAt p ds := by
  obtain ⟨rest, rfl⟩ := hds
  cases ds with
  | nil => exact nofun
  | cons d ds => exact h

theorem dropBlanksRight_isPrefix (cs : List Char) : dropBlanksRight cs <+: cs := by
  have h : (dropBlanks cs.reverse).reverse <+: cs.reverse.reverse :=
    List.reverse_prefix.2 (List.dropWhile_suffix isBlank)
  rwa [List.reverse_reverse] at h

theorem readInt32?_of_stopsAt {cs : List Char} (h : StopsAt isSign cs) :
    readInt32? cs =
      if cs ≠ [] ∧ allDigits cs = true then
        if -2147483648 ≤ (ofDigits cs : Int) ∧ (ofDigits cs : Int) < 2147483648 then
          some (ofDigits cs : Int)
        else none
      else none := by
  unfold readInt32?
  split
  next negative digits heq =>
  split at heq
  · exact absurd (h '-' rfl) (by decide)
  · exact absurd (h '+' rfl) (by decide)
  · cases heq
    rfl

/-- An integer is read with its sign changed after a minus sign. -/
theorem readInt32?_minus {cs : List Char} {i : Int} (hcs : StopsAt isSign cs)
    (h : readInt32? cs = some i) : readInt32? ('-' :: cs) = some (-i) := by
  rw [readInt32?_of_stopsAt hcs] at h
  split at h
  · next hdigits =>
    split at h
    · next hrange =>
      cases h
      have hrange' : -2147483648 ≤ -(ofDigits cs : Int) ∧ -(ofDigits cs : Int) < 2147483648 := by
        omega
      exact (if_pos hdigits).trans (if_pos hrange')
    · cases h
  · cases h

/-- Only one number is an integer with a minus sign and none without. -/
theorem eq_of_readInt32?_minus {cs : List Char} {i : Int} (hcs : StopsAt isSign cs)
    (hnone : readInt32? cs = none) (h : readInt32? ('-' :: cs) = some i) :
    ofDigits cs = 2147483648 ∧ i = -2147483648 := by
  have hminus : readInt32? ('-' :: cs) =
      if cs ≠ [] ∧ allDigits cs = true then
        if -2147483648 ≤ -(ofDigits cs : Int) ∧ -(ofDigits cs : Int) < 2147483648 then
          some (-(ofDigits cs : Int))
        else none
      else none := rfl
  rw [hminus] at h
  split at h
  · next hdigits =>
    rw [readInt32?_of_stopsAt hcs, if_pos hdigits] at hnone
    split at h
    · next hrange =>
      cases h
      split at hnone
      · cases hnone
      · omega
    · cases h
  · cases h

theorem nonneg_of_readInt32? {cs : List Char} {i : Int} (hcs : StopsAt isSign cs)
    (h : readInt32? cs = some i) : 0 ≤ i ∧ i < 2147483648 := by
  rw [readInt32?_of_stopsAt hcs] at h
  split at h
  · split at h
    · next hrange =>
      cases h
      exact ⟨Int.natCast_nonneg _, hrange.2⟩
    · cases h
  · cases h

end Text

namespace Locale

theorem splitSign_of_stopsAt {cs : List Char} (h : StopsAt isSign cs) : splitSign cs = ([], cs) := by
  unfold splitSign
  split
  · exact absurd (h '+' rfl) (by decide)
  · exact absurd (h '-' rfl) (by decide)
  · rfl

theorem isSign_of_canonicalChar? {mark : Option Char} {c d : Char}
    (h : canonicalChar? mark c = some d) : isSign d = false := by
  unfold canonicalChar? at h
  split at h
  · next hdigit =>
    cases h
    exact isSign_of_isDigit hdigit
  split at h
  · cases h
    rfl
  · cases h

/-- **A number without a sign has canonical text without one.** -/
theorem stopsAt_of_normalize {locale : Locale} {raw canonical : List Char}
    (hraw : StopsAt isSign (dropBlanks raw)) (h : locale.normalize raw = some canonical) :
    StopsAt isSign canonical := by
  have htrim : StopsAt isSign (trim raw) := hraw.of_isPrefix (dropBlanksRight_isPrefix _)
  have hmantissa : StopsAt isSign (mantissaOf (trim raw)) := htrim.of_isPrefix (List.take_prefix _ _)
  simp only [normalize, splitSign_of_stopsAt hmantissa, List.nil_append] at h
  split at h
  · next hbody =>
    cases h
    rw [isBody, Bool.and_eq_true] at hbody
    obtain ⟨c, hc, hdigit⟩ := List.any_eq_true.1 hbody.2
    have hmem : c ∈ (mantissaOf (trim raw)).filterMap
        (canonicalChar? (locale.decimalMark? (mantissaOf (trim raw)))) :=
      List.mem_filterMap.2 ⟨c, hc, if_pos hdigit⟩
    cases hdigits : (mantissaOf (trim raw)).filterMap
        (canonicalChar? (locale.decimalMark? (mantissaOf (trim raw)))) with
    | nil =>
      rw [hdigits] at hmem
      cases hmem
    | cons d ds =>
      have hd : d ∈ (mantissaOf (trim raw)).filterMap
          (canonicalChar? (locale.decimalMark? (mantissaOf (trim raw)))) := by
        rw [hdigits]
        exact List.mem_cons_self
      obtain ⟨c', -, hc'⟩ := List.mem_filterMap.1 hd
      exact stopsAt_cons (isSign_of_canonicalChar? hc') ds
  · cases h

end Locale

/-! ## Plain characters -/

section

variable {cs : List Char}

theorem dropBlanks_of_not_isBlank (h : ∀ c ∈ cs, isBlank c = false) : dropBlanks cs = cs := by
  cases cs with
  | nil => rfl
  | cons c cs => exact dropBlanks_cons (h c List.mem_cons_self) cs

theorem trim_of_not_isBlank (h : ∀ c ∈ cs, isBlank c = false) : trim cs = cs := by
  have hreverse : ∀ c ∈ cs.reverse, isBlank c = false := fun c hc => h c (List.mem_reverse.1 hc)
  rw [trim, dropBlanks_of_not_isBlank h, dropBlanksRight, dropBlanks_of_not_isBlank hreverse,
    List.reverse_reverse]

theorem stopsAt_of_not_isSign (h : ∀ c ∈ cs, isSign c = false) : StopsAt isSign cs :=
  fun c hc => h c (List.mem_of_mem_head? hc)

theorem Fixed.isExponentMark_of_isDigit {c : Char} (h : c.isDigit = true) :
    Fixed.isExponentMark c = false := by
  rw [Fixed.isExponentMark, Bool.or_eq_false_iff, decide_eq_false_iff_not, decide_eq_false_iff_not]
  exact ⟨Parser.ne_of_isDigit h rfl, Parser.ne_of_isDigit h rfl⟩

theorem Locale.exponentOf_of_not_isExponentMark
    (h : ∀ c ∈ cs, Fixed.isExponentMark c = false) : Locale.exponentOf cs = [] := by
  induction cs with
  | nil => rfl
  | cons c cs ih =>
    obtain ⟨hc, hcs⟩ := List.forall_mem_cons.1 h
    have hmark : ¬((c = 'e' ∨ c = 'E') ∧ Locale.isSignedDigits cs = true) := by
      rintro ⟨rfl | rfl, -⟩
      · cases hc
      · cases hc
    rw [Locale.exponentOf, if_neg hmark, ih hcs]

end

/-! ## Whole numbers -/

section Digits

variable {cs : List Char} (hcs : ∀ c ∈ cs, c.isDigit = true)
include hcs

theorem stopsAt_of_isDigit : StopsAt isSign cs :=
  stopsAt_of_not_isSign fun c hc => isSign_of_isDigit (hcs c hc)

namespace Locale

theorem filterMap_of_isDigit (mark : Option Char) : cs.filterMap (canonicalChar? mark) = cs := by
  induction cs with
  | nil => rfl
  | cons c cs ih =>
    obtain ⟨hc, hcs⟩ := List.forall_mem_cons.1 hcs
    have hkept : canonicalChar? mark c = some c := if_pos hc
    rw [List.filterMap_cons_some hkept, ih hcs]

theorem countP_isMark_of_isDigit (mark : Option Char) : cs.countP (isMark mark) = 0 := by
  refine List.countP_eq_zero.2 fun c hc => ?_
  rw [isMark, hcs c hc]
  exact Bool.false_ne_true

/-- **Digits are their own canonical text**, under every locale. -/
theorem normalize_of_isDigit (locale : Locale) (hne : cs ≠ []) :
    locale.normalize cs = some cs := by
  have htrim := trim_of_not_isBlank fun c hc => isBlank_of_isDigit (hcs c hc)
  have hexponent :=
    exponentOf_of_not_isExponentMark fun c hc => Fixed.isExponentMark_of_isDigit (hcs c hc)
  have hmantissa : mantissaOf cs = cs := by
    rw [mantissaOf, hexponent, List.length_nil, Nat.sub_zero, List.take_length]
  have hbody : ∀ mark, locale.isBody mark cs = true := by
    intro mark
    have hcount := countP_isMark_of_isDigit hcs mark
    obtain ⟨c, rest, rfl⟩ := List.exists_cons_of_ne_nil hne
    have hall : (c :: rest).all (fun c => c.isDigit || isMark mark c || locale.isGrouping c) = true :=
      List.all_eq_true.2 fun d hd => by rw [hcs d hd]; rfl
    have hany : (c :: rest).any Char.isDigit = true :=
      List.any_eq_true.2 ⟨c, List.mem_cons_self, hcs c List.mem_cons_self⟩
    rw [isBody, hall, hcount, hany]
    rfl
  simp only [normalize, htrim, hmantissa, splitSign_of_stopsAt (stopsAt_of_isDigit hcs), hbody, if_true,
    filterMap_of_isDigit hcs, hexponent, List.nil_append, List.append_nil]

end Locale

end Digits

namespace Parser

variable {T : Type} [Numeric T] (locale : Locale) {n : Nat}

/-- **A whole number is read as an integer** if 32 bits hold it. -/
theorem read_decimal (hn : n < 2147483648) :
    (read locale false (decimal n) : Except _ (Expr T)) = .ok (.int (Int32.ofInt n)) := by
  have hread : readInt32? (decimal n) = some (n : Int) := by
    rw [readInt32?_of_stopsAt (stopsAt_of_isDigit isDigit_of_mem_decimal), ofDigits_decimal,
      if_pos ⟨decimal_ne_nil n, allDigits_decimal n⟩, if_pos (by omega)]
  simp only [read, Locale.normalize_of_isDigit isDigit_of_mem_decimal locale (decimal_ne_nil n),
    allDigits_decimal, Bool.false_eq_true, if_false, if_true, hread]

/-- After a minus sign, the integers reach one further. -/
theorem read_minus_decimal (hn : n ≤ 2147483648) :
    (read locale true (decimal n) : Except _ (Expr T)) = .ok (.int (Int32.ofInt (-n))) := by
  have hread : readInt32? ('-' :: decimal n) = some (-(n : Int)) := by
    have hrange : -2147483648 ≤ -(ofDigits (decimal n) : Int) ∧
        -(ofDigits (decimal n) : Int) < 2147483648 := by
      rw [ofDigits_decimal]
      omega
    have hvalue : readInt32? ('-' :: decimal n) = some (-(ofDigits (decimal n) : Int)) :=
      (if_pos ⟨decimal_ne_nil n, allDigits_decimal n⟩).trans (if_pos hrange)
    rw [hvalue, ofDigits_decimal]
  simp only [read, Locale.normalize_of_isDigit isDigit_of_mem_decimal locale (decimal_ne_nil n),
    allDigits_decimal, if_true, hread]

/-- **A number with a point is left to the number type**, with its sign. -/
theorem read_of_not_allDigits {negative : Bool} {text canonical : List Char} {x : T}
    (hcanonical : locale.normalize text = some canonical) (hdigits : allDigits canonical = false)
    (hx : Numeric.ofCanonical? (if negative = true then '-' :: canonical else canonical) = some x) :
    read locale negative text = .ok (.const x) := by
  simp only [read, hcanonical, hdigits, Bool.false_eq_true, if_false, hx]

end Parser

/-! ## Reading with and without a sign -/

namespace Parser

theorem isSign_of_atNumber {locale : Locale} (hlocale : locale.Distinct) {c : Char}
    {rest : List Char} (h : atNumber locale (c :: rest) = true) :
    isSign c = false ∧ isBlank c = false := by
  rcases lead_of_atNumber hlocale h with hdigit | rfl | rfl
  · exact ⟨isSign_of_isDigit hdigit, isBlank_of_isDigit hdigit⟩
  · exact ⟨rfl, rfl⟩
  · exact ⟨rfl, rfl⟩

/-- A number in formula text has no sign. -/
theorem stopsAt_scan {locale : Locale} (hlocale : locale.Distinct) {cs text after : List Char}
    (hnumber : atNumber locale cs = true) (hscan : scan locale cs = (text, after)) :
    StopsAt isSign (dropBlanks text) := by
  cases cs with
  | nil => cases hnumber
  | cons c rest =>
    obtain ⟨hsign, hblank⟩ := isSign_of_atNumber hlocale hnumber
    have htext := congrArg Prod.fst hscan
    simp only [scan, List.takeWhile_cons, isNumberChar_of_atNumber hnumber, if_true,
      List.cons_append] at htext
    rw [← htext, dropBlanks_cons hblank]
    exact stopsAt_cons hsign _

/-- **A number that is read without a sign is read after a minus sign.** -/
theorem read_minus {T : Type} [Numeric T] [SignReadable T] {locale : Locale} {text : List Char}
    {e : Expr T} (htext : StopsAt isSign (dropBlanks text)) (h : read locale false text = .ok e) :
    ∃ e' : Expr T, read locale true text = .ok e' := by
  unfold read at h ⊢
  cases hcanonical : locale.normalize text with
  | none => rw [hcanonical] at h; cases h
  | some canonical =>
    have hsign := Locale.stopsAt_of_normalize htext hcanonical
    rw [hcanonical] at h
    simp only [Bool.false_eq_true, if_false, if_true] at h ⊢
    cases hint : if allDigits canonical then readInt32? ('-' :: canonical) else none with
    | some i => exact ⟨_, rfl⟩
    | none =>
      have hpositive : (if allDigits canonical then readInt32? canonical else none) = none := by
        split
        · next hdigits =>
          rw [if_pos hdigits] at hint
          cases hread : readInt32? canonical with
          | none => rfl
          | some i =>
            rw [readInt32?_minus hsign hread] at hint
            cases hint
        · rfl
      rw [hpositive] at h
      dsimp only at h ⊢
      split at h
      · next x hx =>
        obtain ⟨y, hy⟩ := SignReadable.ofCanonical?_minus hsign hx
        rw [hy]
        exact ⟨_, rfl⟩
      · cases h

/-- Every number among the tokens is written without a sign. -/
def Signless (ts : List Token) : Prop :=
  ∀ text, .number text ∈ ts → StopsAt isSign (dropBlanks text)

theorem Signless.of_subset {ts us : List Token} (h : Signless ts) (hus : us ⊆ ts) : Signless us :=
  fun text htext => h text (hus htext)

theorem signless_of_lexes {locale : Locale} (hlocale : locale.Distinct) {input rest : List Char}
    {ts : List Token} (h : Lexes locale input ts rest) : Signless ts := by
  induction h with
  | done _ => exact nofun
  | cons hstarts _ ih =>
    intro text htext
    rcases List.mem_cons.1 htext with rfl | htext
    · cases hstarts with
      | number hnumber hscan => exact stopsAt_scan hlocale hnumber hscan
    · exact ih text htext

/-- Every number of a row of tokens that is read without a sign is read after a minus sign. -/
def Signable {T : Type} [Numeric T] (ctx : Context T) (ts : List Token) : Prop :=
  ∀ text, .number text ∈ ts → ∀ e : Expr T, read ctx.locale false text = .ok e →
    ∃ e' : Expr T, read ctx.locale true text = .ok e'

theorem Signable.of_subset {T : Type} [Numeric T] {ctx : Context T} {ts us : List Token}
    (h : Signable ctx ts) (hus : us ⊆ ts) : Signable ctx us :=
  fun text htext => h text (hus htext)

/-- **Every number in formula text is read after a minus sign**, if the number type can. -/
theorem signable_of_lexes {T : Type} [Numeric T] [SignReadable T] {ctx : Context T}
    (hlocale : ctx.locale.Distinct) {input rest : List Char} {ts : List Token}
    (h : Lexes ctx.locale input ts rest) : Signable ctx ts :=
  fun text htext _ => read_minus (signless_of_lexes hlocale h text htext)

end Parser

end Formulary
