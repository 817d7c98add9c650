import Formulary.Proofs.Number.Canonical

/-!
# Proofs/Locale/Written — numbers as a locale writes them

`Locale.Writes` says which texts are numbers under a locale, and what their canonical text is: sign, digits
and exponent are kept in order, a point stands where the decimal mark stood, and grouping marks are
dropped. Which character is the decimal mark depends on the whole number (`Locale.DecimalMark`).
`normalize` finds the canonical text of exactly these texts (`Locale.normalize_eq_some_iff`), and under the
point locale they are canonical already.
-/

namespace Formulary

open Text

open Fixed (SignText DigitText ExponentText isExponentMark isExponentMark_iff stopsAt_point)

/-- Canonical text of a number: an optional sign, digits with at most one point, at least one digit, and
an optional exponent. -/
def Canonical (cs : List Char) : Prop :=
  ∃ literal : Fixed.Literal, literal.WrittenAs cs

namespace Locale

/-! ## Groups of digits -/

/-- Groups of exactly three digits, with a point before each. -/
inductive PointGroups : List Char → Prop where
  | nil : PointGroups []
  | cons {group rest : List Char} : group.length = 3 → allDigits group = true → PointGroups rest →
    PointGroups ('.' :: (group ++ rest))

/-- One to three digits, and then one or more groups of three with a point before each. -/
def GroupedByPoints (body : List Char) : Prop :=
  ∃ lead groups, body = lead ++ groups ∧ 1 ≤ lead.length ∧ lead.length ≤ 3 ∧ allDigits lead = true ∧
    groups ≠ [] ∧ PointGroups groups

theorem groupsOfThree_digits {group : List Char} (hdigits : allDigits group = true) (size : Nat)
    (rest : List Char) :
    groupsOfThree size (group ++ rest) = groupsOfThree (size + group.length) rest := by
  induction group generalizing size with
  | nil => rfl
  | cons c group ih =>
    rw [allDigits, List.all_cons, Bool.and_eq_true] at hdigits
    have hlength : size + (c :: group).length = size + 1 + group.length := by
      rw [List.length_cons]
      omega
    rw [List.cons_append, groupsOfThree, if_neg (Parser.ne_of_isDigit hdigits.1 rfl), hdigits.1,
      Bool.true_and, ih hdigits.2, hlength]

theorem groupsOfThree_of_pointGroups {rest : List Char} (h : PointGroups rest) :
    groupsOfThree 3 rest = true := by
  induction h with
  | nil => rfl
  | cons hlength hdigits _ ih =>
    rw [groupsOfThree, if_pos rfl, groupsOfThree_digits hdigits, hlength, ih]
    rfl

/-- The digits of a first group, of which `size` are read already, and the groups after it. -/
theorem exists_of_groupsOfThree {size : Nat} {cs : List Char} (h : groupsOfThree size cs = true) :
    ∃ group rest, cs = group ++ rest ∧ size + group.length = 3 ∧ allDigits group = true ∧
      PointGroups rest := by
  induction cs generalizing size with
  | nil => exact ⟨[], [], rfl, of_decide_eq_true h, rfl, .nil⟩
  | cons c cs ih =>
    rw [groupsOfThree] at h
    split at h
    · next hpoint =>
      rw [Bool.and_eq_true, decide_eq_true_iff] at h
      obtain ⟨group, rest, hcs, hlength, hdigits, hrest⟩ := ih h.2
      rw [Nat.zero_add] at hlength
      refine ⟨[], c :: cs, rfl, h.1, rfl, ?_⟩
      rw [hpoint, hcs]
      exact .cons hlength hdigits hrest
    · rw [Bool.and_eq_true] at h
      obtain ⟨group, rest, hcs, hlength, hdigits, hrest⟩ := ih h.2
      refine ⟨c :: group, rest, by rw [hcs, List.cons_append], ?_, ?_, hrest⟩
      · rw [List.length_cons]
        omega
      · rw [allDigits, List.all_cons, h.1]
        exact hdigits

theorem isGroupedByPoints_iff {body : List Char} :
    isGroupedByPoints body = true ↔ GroupedByPoints body := by
  constructor
  · intro h
    unfold isGroupedByPoints at h
    dsimp only at h
    split at h
    · cases h
    next c rest hrest =>
    simp only [Bool.and_eq_true, decide_eq_true_iff] at h
    obtain ⟨⟨⟨hpos, hle⟩, hlead⟩, hgroups⟩ := h
    obtain ⟨group, more, rfl, hlength, hdigits, hmore⟩ := exists_of_groupsOfThree hgroups
    have hpoint : c = '.' := by
      have hhead := List.head?_dropWhile_not (· ≠ '.') body
      rw [hrest] at hhead
      simpa using hhead
    rw [hpoint] at hrest
    rw [Nat.zero_add] at hlength
    refine ⟨body.takeWhile (· ≠ '.'), '.' :: (group ++ more), ?_, hpos, hle, hlead, List.cons_ne_nil _ _,
      .cons hlength hdigits hmore⟩
    rw [← hrest, List.takeWhile_append_dropWhile]
  · rintro ⟨lead, groups, rfl, hpos, hle, hlead, hne, hgroups⟩
    have hdigits : ∀ c ∈ lead, decide (c ≠ '.') = true := fun c hc =>
      Fixed.ne_point_of_isDigit (List.all_eq_true.1 hlead c hc)
    cases hgroups with
    | nil => exact absurd rfl hne
    | @cons group rest hlength hgroup hrest =>
      have hmore : groupsOfThree 0 (group ++ rest) = true := by
        rw [groupsOfThree_digits hgroup, hlength, groupsOfThree_of_pointGroups hrest]
      unfold isGroupedByPoints
      rw [takeWhile_append_of_stopsAt hdigits (stopsAt_point _),
        dropWhile_append_of_stopsAt hdigits (stopsAt_point _)]
      simp only [Bool.and_eq_true, decide_eq_true_iff]
      exact ⟨⟨⟨hpos, hle⟩, hlead⟩, hmore⟩

/-! ## Exponents -/

theorem isSignedDigits_iff {cs : List Char} :
    isSignedDigits cs = true ↔
      ∃ negative sign digits, SignText negative sign ∧ digits ≠ [] ∧ allDigits digits = true ∧
        cs = sign ++ digits := by
  cases cs with
  | nil =>
    constructor
    · exact nofun
    · rintro ⟨negative, sign, digits, -, hne, -, hcs⟩
      exact absurd (List.append_eq_nil_iff.1 hcs.symm).2 hne
  | cons c rest =>
    rw [isSignedDigits]
    constructor
    · intro h
      split at h
      · next hsign =>
        rw [Bool.and_eq_true, Bool.not_eq_true', List.isEmpty_eq_false_iff] at h
        rcases hsign with rfl | rfl
        · exact ⟨false, ['+'], rest, .plus, h.1, h.2, rfl⟩
        · exact ⟨true, ['-'], rest, .minus, h.1, h.2, rfl⟩
      · exact ⟨false, [], c :: rest, .absent, List.cons_ne_nil _ _, h, rfl⟩
    · rintro ⟨negative, sign, digits, hsign, hne, hdigits, hcs⟩
      have hsome : (!digits.isEmpty && digits.all Char.isDigit) = true := by
        rw [Bool.and_eq_true, Bool.not_eq_true', List.isEmpty_eq_false_iff]
        exact ⟨hne, hdigits⟩
      cases hsign with
      | absent =>
        rw [List.nil_append] at hcs
        rw [← hcs] at hdigits hsome
        have hc : c.isDigit = true := List.all_eq_true.1 hdigits c List.mem_cons_self
        rw [if_neg (not_or.2 ⟨Parser.ne_of_isDigit hc rfl, Parser.ne_of_isDigit hc rfl⟩)]
        exact hdigits
      | plus =>
        cases hcs
        exact hsome
      | minus =>
        cases hcs
        exact hsome

/-- What stands at the end of a number is an exponent. -/
theorem exists_exponentText (raw : List Char) : ∃ e, ExponentText e (exponentOf raw) := by
  induction raw with
  | nil => exact ⟨0, .absent⟩
  | cons c rest ih =>
    rw [exponentOf]
    split
    · next h =>
      obtain ⟨negative, sign, digits, hsign, hne, hdigits, rfl⟩ := isSignedDigits_iff.1 h.2
      exact ⟨_, .marked (isExponentMark_iff.2 h.1) hsign hne hdigits⟩
    · exact ih

/-- Signed digits hold no further exponent. -/
theorem not_isExponentMark_of_isSignedDigits {cs : List Char} (h : isSignedDigits cs = true) :
    ∀ c ∈ cs, (!isExponentMark c) = true := by
  obtain ⟨negative, sign, digits, hsign, -, hdigits, rfl⟩ := isSignedDigits_iff.1 h
  have hwhole : DigitText digits [] digits := .whole
  exact Fixed.isExponentMark_of_mem hsign hwhole hdigits rfl

/-- A text has one exponent at most, whatever stands before it. -/
theorem exponentOf_append {e : Int} {exponent : List Char} (h : ExponentText e exponent)
    (hne : exponent ≠ []) (mantissa : List Char) : exponentOf (mantissa ++ exponent) = exponent := by
  cases h with
  | absent => exact absurd rfl hne
  | @marked mark negative sign digits hmark hsign hdne hdigits =>
    induction mantissa with
    | nil =>
      have hcond : (mark = 'e' ∨ mark = 'E') ∧ isSignedDigits (sign ++ digits) = true :=
        ⟨isExponentMark_iff.1 hmark,
          isSignedDigits_iff.2 ⟨negative, sign, digits, hsign, hdne, hdigits, rfl⟩⟩
      rw [List.nil_append, exponentOf, if_pos hcond]
    | cons c mantissa ih =>
      have hcond : ¬((c = 'e' ∨ c = 'E') ∧
          isSignedDigits (mantissa ++ mark :: (sign ++ digits)) = true) := by
        rintro ⟨-, hsigned⟩
        have hmem : mark ∈ mantissa ++ mark :: (sign ++ digits) :=
          List.mem_append_right _ List.mem_cons_self
        have hno := not_isExponentMark_of_isSignedDigits hsigned mark hmem
        rw [hmark] at hno
        cases hno
      rw [List.cons_append, exponentOf, if_neg hcond, ih]

/-- The exponent of a text: the only one that the text ends with, or nothing where it ends with none. -/
structure OnlyExponent (text exponent : List Char) : Prop where
  isExponent : ∃ e, ExponentText e exponent
  only : ∀ e other, ExponentText e other → other ≠ [] → other <:+ text → other = exponent

theorem onlyExponent_exponentOf (text : List Char) : OnlyExponent text (exponentOf text) where
  isExponent := exists_exponentText text
  only := by
    rintro e other hother hne ⟨mantissa, rfl⟩
    exact (exponentOf_append hother hne mantissa).symm

theorem OnlyExponent.eq_exponentOf {mantissa exponent : List Char}
    (h : OnlyExponent (mantissa ++ exponent) exponent) : exponentOf (mantissa ++ exponent) = exponent := by
  obtain ⟨e, he⟩ := h.isExponent
  by_cases hne : exponent = []
  · by_contra hother
    rw [hne] at hother
    obtain ⟨e', he'⟩ := exists_exponentText (mantissa ++ exponent)
    exact hother (hne ▸ h.only e' _ he' (hne ▸ hother) (exponentOf_suffix _))
  · exact exponentOf_append he hne mantissa

theorem mantissaOf_of_onlyExponent {mantissa exponent : List Char}
    (h : OnlyExponent (mantissa ++ exponent) exponent) : mantissaOf (mantissa ++ exponent) = mantissa := by
  have hsplit := mantissaOf_append_exponentOf (mantissa ++ exponent)
  rw [h.eq_exponentOf] at hsplit
  exact List.append_cancel_right hsplit

/-! ## Signs -/

theorem splitSign_of_signText {negative : Bool} {sign body : List Char} (hsign : SignText negative sign)
    (hbody : sign = [] → StopsAt isSign body) : splitSign (sign ++ body) = (sign, body) := by
  cases hsign with
  | absent => exact splitSign_of_stopsAt (hbody rfl)
  | plus => rfl
  | minus => rfl

theorem exists_of_splitSign {cs sign body : List Char} (h : splitSign cs = (sign, body)) :
    cs = sign ++ body ∧ (∃ negative, SignText negative sign) ∧ (sign = [] → StopsAt isSign body) := by
  unfold splitSign at h
  split at h
  · cases h
    exact ⟨rfl, ⟨_, .plus⟩, nofun⟩
  · cases h
    exact ⟨rfl, ⟨_, .minus⟩, nofun⟩
  · next hplus hminus =>
    cases h
    refine ⟨rfl, ⟨_, .absent⟩, fun _ c hc => ?_⟩
    obtain ⟨rest, rfl⟩ := List.head?_eq_some_iff.1 hc
    rw [isSign, Bool.or_eq_false_iff, decide_eq_false_iff_not, decide_eq_false_iff_not]
    exact ⟨fun hc => hplus rest (by rw [hc]), fun hc => hminus rest (by rw [hc])⟩

/-! ## Decimal marks -/

/-- Which character stands for the point in a number: the decimal separator of the locale, if the number
has one anywhere, else the point, unless points group its digits. -/
inductive DecimalMark (locale : Locale) (body : List Char) : Option Char → Prop where
  | separator : locale.decimal ∈ body → DecimalMark locale body (some locale.decimal)
  | point : locale.decimal ∉ body → '.' ∈ body →
    ¬(locale.grouping = some '.' ∧ GroupedByPoints body) → DecimalMark locale body (some '.')
  | absent : locale.decimal ∉ body →
    ('.' ∈ body → locale.grouping = some '.' ∧ GroupedByPoints body) → DecimalMark locale body none

theorem decimalMark?_eq_iff {locale : Locale} {body : List Char} {mark : Option Char} :
    locale.decimalMark? body = mark ↔ DecimalMark locale body mark := by
  have hgrouped : (body.contains '.' && !(decide (locale.grouping = some '.') && isGroupedByPoints body))
      = true ↔ '.' ∈ body ∧ ¬(locale.grouping = some '.' ∧ GroupedByPoints body) := by
    rw [Bool.and_eq_true, List.contains_iff_mem, Bool.not_eq_true', ← Bool.not_eq_true,
      Bool.and_eq_true, decide_eq_true_iff, isGroupedByPoints_iff]
  constructor
  · rintro rfl
    unfold decimalMark?
    split
    · next h => exact .separator (List.contains_iff_mem.1 h)
    next hdecimal =>
    rw [List.contains_iff_mem] at hdecimal
    split
    · next h => exact .point hdecimal (hgrouped.1 h).1 (hgrouped.1 h).2
    · next h =>
      rw [hgrouped] at h
      exact .absent hdecimal fun hpoint => not_not.1 fun hnot => h ⟨hpoint, hnot⟩
  · intro h
    unfold decimalMark?
    cases h with
    | separator hdecimal => rw [if_pos (List.contains_iff_mem.2 hdecimal)]
    | point hdecimal hpoint hnot =>
      rw [if_neg (mt List.contains_iff_mem.1 hdecimal), if_pos (hgrouped.2 ⟨hpoint, hnot⟩)]
    | absent hdecimal hall =>
      rw [if_neg (mt List.contains_iff_mem.1 hdecimal),
        if_neg fun h => (hgrouped.1 h).2 (hall (hgrouped.1 h).1)]

/-! ## Bodies -/

/-- Digits, with grouping marks anywhere between them, none of which is the decimal mark. -/
def GroupedDigits (locale : Locale) (mark : Option Char) (cs : List Char) : Prop :=
  ∀ c ∈ cs, c.isDigit = true ∨ (some c ≠ mark ∧ locale.isGrouping c = true)

/-- What is kept of the digits and marks of a number: its digits, and a point where the decimal mark
stood. -/
inductive BodyText (locale : Locale) (mark : Option Char) : List Char → List Char → Prop where
  | whole {digits : List Char} : GroupedDigits locale mark digits →
    BodyText locale mark digits (digits.filter Char.isDigit)
  | point {before after : List Char} {c : Char} : some c = mark → c.isDigit = false →
    GroupedDigits locale mark before → GroupedDigits locale mark after →
    BodyText locale mark (before ++ c :: after)
      (before.filter Char.isDigit ++ '.' :: after.filter Char.isDigit)

section

variable {locale : Locale} {mark : Option Char} {cs : List Char}

theorem isMark_iff {c : Char} : isMark mark c = true ↔ c.isDigit = false ∧ some c = mark := by
  rw [isMark, Bool.and_eq_true, Bool.not_eq_true', decide_eq_true_iff]

/-- The characters that a number may consist of. -/
theorem groupedDigits_iff :
    GroupedDigits locale mark cs ↔
      cs.all (fun c => c.isDigit || isMark mark c || locale.isGrouping c) = true ∧
        cs.countP (isMark mark) = 0 := by
  rw [List.all_eq_true, List.countP_eq_zero, ← forall₂_and]
  refine forall₂_congr fun c _ => ?_
  rw [isMark_iff, Bool.or_eq_true, Bool.or_eq_true, isMark_iff]
  cases c.isDigit <;> simp +contextual [and_comm]

theorem filterMap_of_groupedDigits (h : GroupedDigits locale mark cs) :
    cs.filterMap (canonicalChar? mark) = cs.filter Char.isDigit := by
  induction cs with
  | nil => rfl
  | cons c cs ih =>
    obtain ⟨hc, hcs⟩ := List.forall_mem_cons.1 h
    rw [List.filterMap_cons, List.filter_cons, ih hcs, canonicalChar?]
    cases hdigit : c.isDigit with
    | true => rfl
    | false =>
      have hmark : ¬isMark mark c = true := fun hmark => by
        rw [hdigit] at hc
        exact (hc.resolve_left Bool.false_ne_true).1 (isMark_iff.1 hmark).2
      rw [if_neg hmark]
      rfl

theorem BodyText.eq {body digits : List Char} (h : BodyText locale mark body digits) :
    body.all (fun c => c.isDigit || isMark mark c || locale.isGrouping c) = true ∧
      body.countP (isMark mark) ≤ 1 ∧ body.filterMap (canonicalChar? mark) = digits := by
  cases h with
  | whole hgrouped =>
    obtain ⟨hall, hcount⟩ := groupedDigits_iff.1 hgrouped
    exact ⟨hall, hcount ▸ Nat.zero_le 1, filterMap_of_groupedDigits hgrouped⟩
  | @point before after c hc hdigit hbefore hafter =>
    have hmark : isMark mark c = true := isMark_iff.2 ⟨hdigit, hc⟩
    have hkept : canonicalChar? mark c = some '.' := by
      rw [canonicalChar?, hdigit, hmark]
      rfl
    obtain ⟨hall, hcount⟩ := groupedDigits_iff.1 hbefore
    obtain ⟨hall', hcount'⟩ := groupedDigits_iff.1 hafter
    refine ⟨?_, ?_, ?_⟩
    · rw [List.all_append, List.all_cons, hall, hall', hmark, Bool.or_true, Bool.true_or]
      rfl
    · rw [List.countP_append, List.countP_cons, hcount, hcount', hmark]
      exact Nat.le_refl 1
    · rw [List.filterMap_append, List.filterMap_cons_some hkept, filterMap_of_groupedDigits hbefore,
        filterMap_of_groupedDigits hafter]

theorem exists_bodyText {body : List Char}
    (hall : body.all (fun c => c.isDigit || isMark mark c || locale.isGrouping c) = true)
    (hcount : body.countP (isMark mark) ≤ 1) :
    BodyText locale mark body (body.filterMap (canonicalChar? mark)) := by
  by_cases hnone : body.countP (isMark mark) = 0
  · have hgrouped := groupedDigits_iff.2 ⟨hall, hnone⟩
    rw [filterMap_of_groupedDigits hgrouped]
    exact .whole hgrouped
  · obtain ⟨c, hc, hmark⟩ := List.countP_pos_iff.1 (Nat.pos_of_ne_zero hnone)
    obtain ⟨before, after, rfl⟩ := List.append_of_mem hc
    rw [List.countP_append, List.countP_cons, hmark, if_pos rfl] at hcount
    rw [List.all_append, List.all_cons, Bool.and_eq_true, Bool.and_eq_true] at hall
    have hbefore := groupedDigits_iff.2 ⟨hall.1, by omega⟩
    have hafter := groupedDigits_iff.2 ⟨hall.2.2, by omega⟩
    have hpoint : BodyText locale mark (before ++ c :: after) _ :=
      .point (isMark_iff.1 hmark).2 (isMark_iff.1 hmark).1 hbefore hafter
    rw [hpoint.eq.2.2]
    exact hpoint

end

/-! ## Numbers -/

/-- Which texts are numbers under a locale, and their canonical text: sign and exponent are kept, and of
what stands between them the digits and the decimal mark, as a point. -/
inductive Writes (locale : Locale) : List Char → List Char → Prop where
  | parts {negative : Bool} {sign body digits exponent : List Char} {mark : Option Char} :
    SignText negative sign → (sign = [] → StopsAt isSign body) →
    OnlyExponent (sign ++ body ++ exponent) exponent → DecimalMark locale body mark →
    BodyText locale mark body digits → (∃ c ∈ body, c.isDigit = true) →
    Writes locale (sign ++ body ++ exponent) (sign ++ digits ++ exponent)

theorem normalize_of_splitSign (locale : Locale) {raw sign body : List Char}
    (h : splitSign (mantissaOf (trim raw)) = (sign, body)) :
    locale.normalize raw =
      if locale.isBody (locale.decimalMark? body) body then
        some (sign ++ body.filterMap (canonicalChar? (locale.decimalMark? body)) ++
          exponentOf (trim raw))
      else none := by
  simp only [normalize, h]

theorem isBody_iff {locale : Locale} {mark : Option Char} {body : List Char} :
    locale.isBody mark body = true ↔
      body.all (fun c => c.isDigit || isMark mark c || locale.isGrouping c) = true ∧
        body.countP (isMark mark) ≤ 1 ∧ ∃ c ∈ body, c.isDigit = true := by
  rw [isBody, Bool.and_eq_true, Bool.and_eq_true, decide_eq_true_iff, List.any_eq_true, and_assoc]

/-- **`normalize` accepts exactly the numbers that the locale writes**, each with its canonical text. -/
theorem normalize_eq_some_iff {locale : Locale} {raw canonical : List Char} :
    locale.normalize raw = some canonical ↔ locale.Writes (trim raw) canonical := by
  constructor
  · intro h
    obtain ⟨sign, body, hsplit⟩ : ∃ sign body, splitSign (mantissaOf (trim raw)) = (sign, body) :=
      ⟨_, _, rfl⟩
    rw [normalize_of_splitSign locale hsplit] at h
    split at h
    · next hbody =>
      cases h
      obtain ⟨hall, hcount, hdigit⟩ := isBody_iff.1 hbody
      obtain ⟨hmantissa, ⟨negative, hsign⟩, hstop⟩ := exists_of_splitSign hsplit
      have htext : sign ++ body ++ exponentOf (trim raw) = trim raw := by
        rw [← hmantissa, mantissaOf_append_exponentOf]
      have hparts : locale.Writes (sign ++ body ++ exponentOf (trim raw)) _ :=
        .parts hsign hstop (htext.symm ▸ onlyExponent_exponentOf (trim raw))
          (decimalMark?_eq_iff.1 rfl) (exists_bodyText hall hcount) hdigit
      rwa [htext] at hparts
    · cases h
  · intro h
    generalize htext : trim raw = text at h
    obtain @⟨_, sign, body, _, _, _, hsign, hstop, hexponent, hmark, hbody, hdigit⟩ := h
    obtain ⟨hall, hcount, hkept⟩ := hbody.eq
    have hsplit : splitSign (mantissaOf (trim raw)) = (sign, body) := by
      rw [htext, mantissaOf_of_onlyExponent hexponent]
      exact splitSign_of_signText hsign hstop
    rw [normalize_of_splitSign locale hsplit, decimalMark?_eq_iff.2 hmark,
      if_pos (isBody_iff.2 ⟨hall, hcount, hdigit⟩), hkept, htext, hexponent.eq_exponentOf]

theorem allDigits_filter (cs : List Char) : allDigits (cs.filter Char.isDigit) = true :=
  List.all_eq_true.2 fun _ hc => (List.mem_filter.1 hc).2

theorem filter_filter_isDigit (cs : List Char) :
    (cs.filter Char.isDigit).filter Char.isDigit = cs.filter Char.isDigit :=
  List.filter_eq_self.2 fun _ hc => (List.mem_filter.1 hc).2

/-- The digits of a body are written with at most one point, and in order. -/
theorem BodyText.exists_digitText {locale : Locale} {mark : Option Char} {body digits : List Char}
    (h : BodyText locale mark body digits) :
    ∃ whole fraction, DigitText whole fraction digits ∧ allDigits whole = true ∧
      allDigits fraction = true ∧ whole ++ fraction = body.filter Char.isDigit ∧
        digits.filter Char.isDigit = body.filter Char.isDigit := by
  cases h with
  | whole _ =>
    exact ⟨_, [], .whole, allDigits_filter _, rfl, List.append_nil _, filter_filter_isDigit _⟩
  | @point before after c _ hdigit _ _ =>
    have hbody : (before ++ c :: after).filter Char.isDigit =
        before.filter Char.isDigit ++ after.filter Char.isDigit := by
      rw [List.filter_append, List.filter_cons, hdigit]
      rfl
    refine ⟨_, _, .point _, allDigits_filter _, allDigits_filter _, hbody.symm, ?_⟩
    rw [hbody, List.filter_append, List.filter_cons, filter_filter_isDigit, filter_filter_isDigit]
    rfl

theorem Writes.canonical {locale : Locale} {text canonical : List Char}
    (h : locale.Writes text canonical) : Canonical canonical := by
  obtain ⟨hsign, -, ⟨⟨e, hexponent⟩, -⟩, -, hbody, c, hc, hdigit⟩ := h
  obtain ⟨whole, fraction, hdigits, hwhole, hfraction, hall, -⟩ := hbody.exists_digitText
  have hsome : ¬(whole = [] ∧ fraction = []) := by
    rintro ⟨rfl, rfl⟩
    exact List.ne_nil_of_mem (List.mem_filter.2 ⟨hc, hdigit⟩) hall.symm
  exact ⟨⟨_, whole, fraction, e⟩, .parts hsign hdigits hexponent hwhole hfraction hsome⟩

theorem Writes.filter_isDigit {locale : Locale} {text canonical : List Char}
    (h : locale.Writes text canonical) :
    canonical.filter Char.isDigit = text.filter Char.isDigit := by
  obtain ⟨-, -, -, -, hbody, -⟩ := h
  obtain ⟨-, -, -, -, -, -, hdigits⟩ := hbody.exists_digitText
  simp only [List.filter_append, hdigits]

/-! ## The point locale -/

theorem mark_of_english {body : List Char} {c : Char} (h : DecimalMark english body (some c)) :
    c = '.' := by
  cases h with
  | separator _ => rfl
  | point _ _ _ => rfl

theorem filter_of_groupedDigits_english {mark : Option Char} {cs : List Char}
    (h : GroupedDigits english mark cs) : cs.filter Char.isDigit = cs :=
  List.filter_eq_self.2 fun c hc => (h c hc).resolve_right fun hgrouping => by cases hgrouping.2

/-- The point locale drops nothing. -/
theorem Writes.eq_of_english {text canonical : List Char} (h : english.Writes text canonical) :
    canonical = text := by
  obtain ⟨-, -, -, hmark, hbody, -⟩ := h
  cases hbody with
  | whole hdigits => rw [filter_of_groupedDigits_english hdigits]
  | point hc _ hbefore hafter =>
    rw [← hc] at hmark
    rw [filter_of_groupedDigits_english hbefore, filter_of_groupedDigits_english hafter,
      mark_of_english hmark]

/-- The exponent of canonical text is the only one. -/
theorem onlyExponent_of_not_isExponentMark {e : Int} {mantissa exponent : List Char}
    (hmantissa : ∀ c ∈ mantissa, (!isExponentMark c) = true) (hexponent : ExponentText e exponent) :
    OnlyExponent (mantissa ++ exponent) exponent where
  isExponent := ⟨e, hexponent⟩
  only := by
    rintro e' other hother hne ⟨before, htext⟩
    by_cases hnone : exponent = []
    · rw [hnone, List.append_nil] at htext
      cases hother with
      | absent => exact absurd rfl hne
      | @marked mark _ _ _ hmark _ _ _ =>
        have hmem : mark ∈ mantissa := htext ▸ List.mem_append_right _ List.mem_cons_self
        have hno := hmantissa mark hmem
        rw [hmark] at hno
        cases hno
    · rw [← exponentOf_append hexponent hnone mantissa, ← htext, exponentOf_append hother hne]

theorem groupedDigits_of_allDigits {locale : Locale} {mark : Option Char} {cs : List Char}
    (h : allDigits cs = true) : GroupedDigits locale mark cs :=
  fun c hc => .inl (List.all_eq_true.1 h c hc)

theorem filter_of_allDigits {cs : List Char} (h : allDigits cs = true) : cs.filter Char.isDigit = cs :=
  List.filter_eq_self.2 (List.all_eq_true.1 h)

/-- Canonical digits are their own text under the point locale. -/
theorem exists_bodyText_english {whole fraction digits : List Char}
    (hdigits : DigitText whole fraction digits) (hwhole : allDigits whole = true)
    (hfraction : allDigits fraction = true) :
    ∃ mark, DecimalMark english digits mark ∧ BodyText english mark digits digits := by
  cases hdigits with
  | whole =>
    have hpoint : '.' ∉ whole := fun hmem => by cases List.all_eq_true.1 hwhole '.' hmem
    have hbody : BodyText english none whole _ := .whole (groupedDigits_of_allDigits hwhole)
    rw [filter_of_allDigits hwhole] at hbody
    exact ⟨none, .absent hpoint fun hmem => absurd hmem hpoint, hbody⟩
  | point =>
    have hpoint : '.' ∈ whole ++ '.' :: fraction := List.mem_append_right _ List.mem_cons_self
    have hbody : BodyText english (some '.') (whole ++ '.' :: fraction) _ :=
      .point rfl rfl (groupedDigits_of_allDigits hwhole) (groupedDigits_of_allDigits hfraction)
    rw [filter_of_allDigits hwhole, filter_of_allDigits hfraction] at hbody
    exact ⟨some '.', .separator hpoint, hbody⟩

theorem exists_isDigit_of_digitText {whole fraction digits : List Char}
    (hdigits : DigitText whole fraction digits) (hwhole : allDigits whole = true)
    (hfraction : allDigits fraction = true) (hsome : ¬(whole = [] ∧ fraction = [])) :
    ∃ c ∈ digits, c.isDigit = true := by
  obtain ⟨c, hc⟩ := List.exists_mem_of_ne_nil (whole ++ fraction) fun hnil =>
    hsome (List.append_eq_nil_iff.1 hnil)
  have hdigit : c.isDigit = true :=
    (List.mem_append.1 hc).elim (List.all_eq_true.1 hwhole c) (List.all_eq_true.1 hfraction c)
  cases hdigits with
  | whole => exact ⟨c, List.append_nil whole ▸ hc, hdigit⟩
  | point =>
    exact ⟨c, List.mem_append.2 ((List.mem_append.1 hc).imp_right (List.mem_cons_of_mem _)), hdigit⟩

theorem writes_english_of_canonical {text : List Char} (h : Canonical text) :
    english.Writes text text := by
  obtain ⟨literal, hsign, hdigits, hexponent, hwhole, hfraction, hsome⟩ := h
  obtain ⟨mark, hmark, hbody⟩ := exists_bodyText_english hdigits hwhole hfraction
  exact .parts hsign (fun _ => Fixed.stopsAt_isSign_of_digitText hdigits hwhole)
    (onlyExponent_of_not_isExponentMark
      (Fixed.isExponentMark_of_mem hsign hdigits hwhole hfraction) hexponent) hmark hbody
    (exists_isDigit_of_digitText hdigits hwhole hfraction hsome)

/-- **`normalize` yields canonical text and keeps the number.** Its digits are those of the text, in order,
and so are sign and exponent; a point stands where the decimal mark stood. Under the point locale the
canonical texts are the only numbers, and nothing of them changes. -/
theorem normalize_canonical (locale : Locale) (raw : List Char) :
    (∀ canonical, locale.normalize raw = some canonical →
      Canonical canonical ∧ canonical.filter Char.isDigit = (trim raw).filter Char.isDigit ∧
        locale.Writes (trim raw) canonical) ∧
      (Canonical (trim raw) → english.normalize raw = some (trim raw)) ∧
      (¬Canonical (trim raw) → english.normalize raw = none) := by
  refine ⟨fun canonical h => ?_, fun h => ?_, fun h => ?_⟩
  · have hwrites := normalize_eq_some_iff.1 h
    exact ⟨hwrites.canonical, hwrites.filter_isDigit, hwrites⟩
  · exact normalize_eq_some_iff.2 (writes_english_of_canonical h)
  · refine Option.eq_none_iff_forall_ne_some.2 fun canonical hcanonical => ?_
    have hwrites := normalize_eq_some_iff.1 hcanonical
    exact h (hwrites.eq_of_english ▸ hwrites.canonical)

/-- Points may group the digits of a number with a decimal comma. The point locale has no such number. -/
theorem normalize_canonical_grouped :
    (german.normalize " -1.234.567,50e+3".toList = some "-1234567.50e+3".toList ∧
      Canonical "-1234567.50e+3".toList ∧
      "-1234567.50e+3".toList.filter Char.isDigit =
        (trim " -1.234.567,50e+3".toList).filter Char.isDigit ∧
      german.Writes (trim " -1.234.567,50e+3".toList) "-1234567.50e+3".toList) ∧
      (Canonical (trim " 1.5".toList) ∧ english.normalize " 1.5".toList = some (trim " 1.5".toList)) ∧
      ¬Canonical (trim "1,5".toList) ∧ english.normalize "1,5".toList = none := by
  have hgrouped : german.normalize " -1.234.567,50e+3".toList = some "-1234567.50e+3".toList := by
    decide +kernel
  have hone : Fixed.Literal.WrittenAs ⟨false, ['1'], ['5'], 0⟩ ([] ++ (['1'] ++ ['.', '5']) ++ []) :=
    .parts .absent (.point ['5']) .absent rfl rfl fun h => List.cons_ne_nil _ _ h.1
  have hpoint : Canonical (trim " 1.5".toList) := ⟨_, hone⟩
  have hcomma : ¬Canonical (trim "1,5".toList) := fun h => by
    have hnormal := normalize_eq_some_iff.2 (writes_english_of_canonical h)
    revert hnormal
    decide
  exact ⟨⟨hgrouped, (normalize_canonical german _).1 _ hgrouped⟩,
    ⟨hpoint, (normalize_canonical german _).2.1 hpoint⟩, hcomma,
    (normalize_canonical german _).2.2 hcomma⟩

end Locale

end Formulary
