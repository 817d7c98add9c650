import Formulary.Proofs.Parser.Tracking

/-!
# Proofs/Parser/Scanning — what is read byte by byte

Operators, names and exponents are ASCII, so that reading them byte by byte finds what the parser on
characters finds. The bytes of other characters are no ASCII characters and end them in the same place,
which is a boundary.
-/

namespace Formulary.Parser

open Text

variable {text : String} {n : Nat} {rest : List Char}

/-! ## Bytes of ASCII characters -/

theorem ne_of_large {c d : Char} (hc : 127 < c.toNat) (hd : d.toNat ≤ 127) : c ≠ d := by
  rintro rfl
  omega

theorem either_of_large {d d' : Char} (hd : d.toNat ≤ 127) (hd' : d'.toNat ≤ 127) (c : Char)
    (hc : 127 < c.toNat) : (c = d || c = d') = false := by
  simp [ne_of_large hc hd, ne_of_large hc hd']

/-- Names are ASCII. -/
theorem isNameChar_of_large (c : Char) (h : 127 < c.toNat) : isNameChar c = false := by
  rw [Bool.eq_false_iff]
  intro hname
  simp only [isNameChar, Char.isAlphanum, Char.isAlpha, Char.isUpper, Char.isLower, Char.isDigit,
    Bool.or_eq_true, Bool.and_eq_true, decide_eq_true_eq, UInt32.le_iff_toNat_le, ge_iff_le] at hname
  have hval : c.toNat = c.val.toNat := rfl
  have hupper : 'Z'.val.toNat = 90 := rfl
  have hlower : 'z'.val.toNat = 122 := rfl
  have hdigit : '9'.val.toNat = 57 := rfl
  rcases hname with ((⟨-, hle⟩ | ⟨-, hle⟩) | ⟨-, hle⟩) | hunderscore
  · omega
  · omega
  · omega
  · exact ne_of_large h (by decide) hunderscore

theorem isDigit_of_large (c : Char) (h : 127 < c.toNat) : c.isDigit = false := by
  have hname := isNameChar_of_large c h
  simp only [isNameChar, Char.isAlphanum, Bool.or_eq_false_iff] at hname
  exact hname.1.2

/-- A byte looked at for an ASCII character. -/
theorem any_byteAt? (hrest : rest <:+ text.toList) {p : Char → Bool}
    (hp : ∀ c, 127 < c.toNat → p c = false) :
    (byteAt? text (offset text rest)).any p = rest.head?.any p := by
  cases rest with
  | nil => rw [byteAt?_offset_nil]; rfl
  | cons c rest =>
    obtain ⟨b, hb, hencodes⟩ := exists_byteAt?_offset hrest
    rw [hb]
    exact hencodes.apply_eq hp

/-! ## Operators -/

namespace Scan

theorem infixOf_of_large {b : Char} (h : 127 < b.toNat) (d : Char) : infixOf b d = none := by
  unfold infixOf
  split <;> first | rfl | (exfalso; revert h; decide)

/-- What is no second character of an operator might as well not be there. -/
theorem infixOf_of_ne {d : Char} (hequals : d ≠ '=') (hgreater : d ≠ '>') (c : Char) :
    infixOf c d = infixOf c '\x00' := by
  fun_cases infixOf c d <;> simp_all [infixOf]

/-- Every part of an operator is one byte. -/
theorem size_of_infixOf {c d : Char} {op : Infix} {size : Nat} (h : infixOf c d = some (op, size)) :
    c.utf8Size = 1 ∧ (size = 1 ∨ size = 2 ∧ d.utf8Size = 1 ∧ d ≠ '\x00') := by
  revert h
  fun_cases infixOf c d <;> intro h <;> cases h <;>
    first
    | exact ⟨by decide, .inl rfl⟩
    | exact ⟨by decide, .inr ⟨rfl, by decide, by decide⟩⟩

/-- The table of operators finds on two characters what the parser finds on a text. -/
theorem infix?_cons (c : Char) (rest : List Char) :
    infix? (c :: rest) = (infixOf c (rest.head?.getD '\x00')).map
      fun p => (p.1, (c :: rest).drop p.2) := by
  cases rest with
  | nil =>
    unfold infix? infixOf
    split <;> simp_all
  | cons d rest =>
    change infix? (c :: d :: rest) = (infixOf c d).map _
    fun_cases infixOf c d <;> simp_all [infix?]

theorem infixAt?_nil (text : String) : infixAt? text (offset text []) = none := by
  rw [infixAt?, byteAt?_offset_nil]
  rfl

/-- **Operators are the same in bytes.** -/
theorem infixAt?_cons {c : Char} (h : c :: rest <:+ text.toList) :
    infixAt? text (offset text (c :: rest)) = infixOf c (rest.head?.getD '\x00') := by
  obtain ⟨b, hb, hencodes⟩ := exists_byteAt?_offset h
  rw [infixAt?, hb]
  change infixOf b _ = _
  rcases hencodes with ⟨rfl, hsize⟩ | ⟨hlarge, hlarge'⟩
  · rw [← hsize, ← offset_tail h]
    cases rest with
    | nil => rw [byteAt?_offset_nil]; rfl
    | cons d rest =>
      obtain ⟨b', hb', hencodes'⟩ := exists_byteAt?_offset ((List.suffix_cons b _).trans h)
      rw [hb']
      rcases hencodes' with ⟨rfl, -⟩ | ⟨hlarge, hlarge'⟩
      · rfl
      · change infixOf b b' = infixOf b d
        rw [infixOf_of_ne (ne_of_large hlarge (by decide)) (ne_of_large hlarge (by decide)),
          infixOf_of_ne (ne_of_large hlarge' (by decide)) (ne_of_large hlarge' (by decide))]
  · rw [infixOf_of_large hlarge, infixOf_of_large hlarge']

theorem infixAt?_eq_none (h : rest <:+ text.toList) (hnone : infix? rest = none) :
    infixAt? text (offset text rest) = none := by
  cases rest with
  | nil => exact infixAt?_nil text
  | cons c rest =>
    rw [infix?_cons, Option.map_eq_none_iff] at hnone
    rw [infixAt?_cons h, hnone]

/-- An operator in bytes takes the cursor behind it. -/
theorem exists_infixAt? (h : rest <:+ text.toList) {op : Infix} {after : List Char}
    (hop : infix? rest = some (op, after)) :
    ∃ size, infixAt? text (offset text rest) = some (op, size) ∧
      offset text rest + size = offset text after ∧ after <:+ text.toList := by
  cases rest with
  | nil => cases hop
  | cons c rest =>
    rw [infix?_cons, Option.map_eq_some_iff] at hop
    obtain ⟨⟨op', size⟩, hfound, heq⟩ := hop
    cases heq
    refine ⟨size, (infixAt?_cons h).trans hfound, ?_, (List.drop_suffix _ _).trans h⟩
    have htail := offset_tail h
    obtain ⟨hone, rfl | ⟨rfl, hnext, hzero⟩⟩ := size_of_infixOf hfound
    · rw [hone] at htail
      exact htail.symm
    · cases rest with
      | nil => exact absurd rfl hzero
      | cons d rest =>
        have hnext : d.utf8Size = 1 := hnext
        have htail' := offset_tail ((List.suffix_cons c _).trans h)
        rw [hnext] at htail'
        rw [hone] at htail
        change _ = offset text rest
        omega

/-! ## Names -/

theorem tracks_skipName : Tracks text n rest (skipName text) (.ok ((), rest.dropWhile isNameChar)) := by
  refine tracks_loop (fun _ rest found => found = .ok ((), rest.dropWhile isNameChar)) ?_ rfl
  rintro ⟨⟩ rest found rfl
  cases rest with
  | nil =>
    refine .inr (tracks_here.andThen ?_)
    rw [byteAt?_offset_nil]
    exact tracks_pure _
  | cons c rest =>
    by_cases hname : isNameChar c = true
    · left
      refine ⟨(), rest, Nat.lt_succ_self _, ?_, .of_suffix fun hsuffix => tracks_here.andThen ?_⟩
      · rw [List.dropWhile_cons_of_pos hname]
      · obtain ⟨b, hb, hencodes⟩ := exists_byteAt?_offset hsuffix
        have hbyte : isNameChar b = true := (hencodes.apply_eq isNameChar_of_large).trans hname
        rw [hb]
        change Tracks text n (c :: rest) (if isNameChar b = true then _ else _) _
        rw [if_pos hbyte]
        exact (tracks_advance (hencodes.utf8Size_eq_one isNameChar_of_large hname)).andThen
          (tracks_pure _)
    · right
      refine .of_suffix fun hsuffix => tracks_here.andThen ?_
      obtain ⟨b, hb, hencodes⟩ := exists_byteAt?_offset hsuffix
      have hbyte : ¬isNameChar b = true := by rwa [hencodes.apply_eq isNameChar_of_large]
      rw [hb]
      change Tracks text n (c :: rest) (if isNameChar b = true then _ else _) _
      rw [if_neg hbyte, List.dropWhile_cons_of_neg hname]
      exact tracks_pure _

/-! ## Numbers -/

/-- **A run of characters** ends where the characters of the run do, by induction on the rest. -/
theorem endOfRun_offset {width : Nat → Nat} {p : Char → Bool}
    (hnil : width (offset text []) = 0)
    (hcons : ∀ c rest, c :: rest <:+ text.toList →
      width (offset text (c :: rest)) = if p c = true then c.utf8Size else 0)
    (h : rest <:+ text.toList) :
    endOfRun text width (offset text rest) = offset text (rest.dropWhile p) := by
  induction rest with
  | nil =>
    rw [endOfRun, hnil, if_neg (fun h => Nat.lt_irrefl _ h.2)]
    rfl
  | cons c rest ih =>
    rw [endOfRun, hcons c rest h]
    by_cases hc : p c = true
    · rw [if_pos hc, if_pos ⟨offset_lt h, c.utf8Size_pos⟩, ← offset_tail h,
        List.dropWhile_cons_of_pos hc]
      exact ih ((List.suffix_cons c rest).trans h)
    · rw [if_neg hc, if_neg (fun h => Nat.lt_irrefl _ h.2), List.dropWhile_cons_of_neg hc]

theorem endOfRun_numberWidth (locale : Locale) (h : rest <:+ text.toList) :
    endOfRun text (numberWidth text locale) (offset text rest) =
      offset text (rest.dropWhile locale.isNumberChar) := by
  refine endOfRun_offset ?_ (fun c rest hsuffix => ?_) h
  · rw [numberWidth, charAt?_offset List.nil_suffix]
    rfl
  · rw [numberWidth, charAt?_offset hsuffix]
    rfl

theorem endOfRun_digitWidth (h : rest <:+ text.toList) :
    endOfRun text (digitWidth text) (offset text rest) =
      offset text (rest.dropWhile Char.isDigit) := by
  refine endOfRun_offset ?_ (fun c rest hsuffix => ?_) h
  · rw [digitWidth, any_byteAt? List.nil_suffix isDigit_of_large]
    rfl
  · rw [digitWidth, any_byteAt? hsuffix isDigit_of_large]
    change (if c.isDigit = true then 1 else 0) = _
    by_cases hdigit : c.isDigit = true
    · obtain ⟨b, -, hencodes⟩ := exists_byteAt?_offset hsuffix
      rw [if_pos hdigit, if_pos hdigit, hencodes.utf8Size_eq_one isDigit_of_large hdigit]
    · rw [if_neg hdigit, if_neg hdigit]

theorem signEnd_offset (h : rest <:+ text.toList) :
    signEnd text (offset text rest) = offset text (Locale.splitSign rest).2 := by
  rw [signEnd, any_byteAt? h (either_of_large (by decide) (by decide))]
  cases rest with
  | nil => rfl
  | cons c rest =>
    by_cases hplus : c = '+'
    · subst hplus
      exact (offset_tail h).symm
    by_cases hminus : c = '-'
    · subst hminus
      exact (offset_tail h).symm
    · have hsplit : (Locale.splitSign (c :: rest)).2 = c :: rest := by
        simp [Locale.splitSign, hplus, hminus]
      rw [hsplit]
      exact if_neg (by simp [hplus, hminus])

theorem splitSign_suffix (cs : List Char) : (Locale.splitSign cs).2 <:+ cs := by
  unfold Locale.splitSign
  split
  · exact List.suffix_cons _ _
  · exact List.suffix_cons _ _
  · exact List.suffix_refl _

theorem scanExponent_snd (c : Char) (rest : List Char) :
    (scanExponent (c :: rest)).2 =
      if (c = 'e' ∨ c = 'E') ∧ startsWithDigit (Locale.splitSign rest).2 then
        (Locale.splitSign rest).2.dropWhile Char.isDigit
      else c :: rest := by
  simp only [scanExponent]
  split <;> rfl

/-- **Exponents are the same in bytes.** -/
theorem exponentEnd_offset (h : rest <:+ text.toList) :
    exponentEnd text (offset text rest) = offset text (scanExponent rest).2 := by
  have hlarge : ∀ b : Char, 127 < b.toNat → (b = 'e' || b = 'E') = false :=
    either_of_large (by decide) (by decide)
  rw [exponentEnd, any_byteAt? h hlarge]
  cases rest with
  | nil => rfl
  | cons c rest =>
    have hrest : rest <:+ text.toList := (List.suffix_cons c rest).trans h
    have hdigits : (Locale.splitSign rest).2 <:+ text.toList := (splitSign_suffix rest).trans hrest
    have hstarts : (Locale.splitSign rest).2.head?.any Char.isDigit =
        startsWithDigit (Locale.splitSign rest).2 := by
      cases (Locale.splitSign rest).2 <;> rfl
    change (if (c = 'e' || c = 'E') = true then _ else _) = _
    by_cases he : (c = 'e' || c = 'E') = true
    · obtain ⟨b, -, hencodes⟩ := exists_byteAt?_offset h
      have hone : c.utf8Size = 1 := hencodes.utf8Size_eq_one hlarge he
      have hletter : c = 'e' ∨ c = 'E' := by simpa using he
      have htail := offset_tail h
      rw [hone] at htail
      rw [if_pos he, ← htail, signEnd_offset hrest]
      dsimp only
      rw [any_byteAt? hdigits isDigit_of_large, hstarts, endOfRun_digitWidth hdigits]
      by_cases hdigit : startsWithDigit (Locale.splitSign rest).2 = true
      · rw [if_pos hdigit, scanExponent_snd, if_pos ⟨hletter, hdigit⟩]
      · rw [if_neg hdigit, scanExponent_snd, if_neg fun h => hdigit h.2]
    · have hletter : ¬(c = 'e' ∨ c = 'E') := by simpa using he
      rw [if_neg he, scanExponent_snd, if_neg fun h => hletter h.1]

/-! ### What is taken and what is left -/

theorem scanExponent_append (cs : List Char) : (scanExponent cs).1 ++ (scanExponent cs).2 = cs := by
  cases cs with
  | nil => rfl
  | cons c rest =>
    have hsign : (Locale.splitSign rest).1 ++ (Locale.splitSign rest).2 = rest := by
      unfold Locale.splitSign
      split <;> rfl
    simp only [scanExponent]
    split
    · rw [List.append_assoc, List.takeWhile_append_dropWhile, List.cons_append, hsign]
    · rfl

/-- A number and the text behind it are the text. -/
theorem scan_append (locale : Locale) (cs : List Char) :
    (scan locale cs).1 ++ (scan locale cs).2 = cs := by
  rw [scan, List.append_assoc, scanExponent_append, List.takeWhile_append_dropWhile]

theorem tracks_number (locale : Locale) : Tracks text n rest (number text locale)
    (.ok (String.ofList (scan locale rest).1, (scan locale rest).2)) := by
  refine .of_suffix fun hsuffix => tracks_here.andThen ?_
  have hnumber : (scan locale rest).1 ++ (scan locale rest).2 <:+ text.toList := by
    rwa [scan_append]
  have hbody : rest.dropWhile locale.isNumberChar <:+ text.toList :=
    (List.dropWhile_suffix _).trans hsuffix
  have hstop : exponentEnd text (endOfRun text (numberWidth text locale) (offset text rest)) =
      offset text (scan locale rest).2 := by
    rw [endOfRun_numberWidth locale hsuffix, exponentEnd_offset hbody]
    rfl
  refine (tracks_slice (List.append_nil rest) hsuffix).andThen ?_
  dsimp only
  rw [hstop]
  refine (tracks_moveTo ((List.suffix_append _ _).trans hnumber)).andThen ?_
  exact tracks_slice (scan_append locale rest) hsuffix

end Scan

end Formulary.Parser
