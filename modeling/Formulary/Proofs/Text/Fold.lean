import Formulary.Text.Fold

/-!
# Proofs/Text/Fold — folding twice is folding once

Names are folded when they are stored and again when they are looked up. That does no harm because no
small form has a small form other than itself (`not_changing_of_mem_lowerChar`), and because no sigma is
left whose form could depend on where it stands.
-/

namespace Formulary.Text

/-! ## Sets of code points apart from each other -/

namespace Run

/-- Whether two runs have no code point in common, by their ends or, where a run has every other code
point, by parity. -/
def apart (r s : Run) : Bool :=
  Nat.blt r.last s.first || Nat.blt s.last r.first ||
    (s.step == 2 && (r.step == 2 || r.first == r.last) && (r.first + s.first) % 2 == 1)

theorem apart_of_covers {r s : Run} {code : Nat} (h : r.apart s = true) (hr : r.covers code = true) :
    s.covers code = false := by
  have hfirst := first_le_of_covers hr
  have hlast := le_last_of_covers hr
  rw [Bool.eq_false_iff]
  intro hs
  have hfirst' := first_le_of_covers hs
  have hlast' := le_last_of_covers hs
  simp only [apart, covers, Nat.blt_eq, Bool.or_eq_true, Bool.and_eq_true, decide_eq_true_eq,
    beq_iff_eq] at h hr hs
  rcases h with (h | h) | ⟨⟨hstep, hone⟩, hparity⟩
  · omega
  · omega
  · have hodd := hs.2
    rw [hstep] at hodd
    rcases hone with hstep' | hone
    · have heven := hr.2
      rw [hstep'] at heven
      omega
    · omega

end Run

/-! ## Characters with a small form -/

/-- The characters that are not their own small form. -/
def changing : CharSet :=
  ⟨0x130, 0x130, 1⟩ :: lowerRuns.map (·.chars)

/-- The small forms of a run of characters. -/
def LowerRun.forms (run : LowerRun) : Run :=
  ⟨(run.chars.first + run.distance).toNat, (run.chars.last + run.distance).toNat, run.chars.step⟩

theorem not_changing_iff {c : Char} :
    changing.has c = false ↔
      c ≠ 'İ' ∧ lowerRuns.find? (·.chars.covers c.toNat) = none := by
  have hdotted : (Run.mk 0x130 0x130 1).covers c.toNat = false ↔ c ≠ 'İ' := by
    have hcode : c = 'İ' ↔ c.toNat = 0x130 := Char.toNat_inj.symm
    rw [Bool.eq_false_iff, Ne, Ne, hcode]
    refine not_congr ?_
    simp only [Run.covers, Bool.and_eq_true, decide_eq_true_eq, beq_iff_eq]
    omega
  simp only [changing, CharSet.has, List.any_cons, List.any_map, Bool.or_eq_false_iff, hdotted,
    List.any_eq_false, List.find?_eq_none, Function.comp_apply]

theorem lowerChar_of_not_changing {c : Char} (h : changing.has c = false) : lowerChar c = [c] := by
  obtain ⟨hdotted, hfind⟩ := not_changing_iff.1 h
  rw [lowerChar, if_neg hdotted, hfind]

/-- The small forms of a run are apart from every character that changes, whichever run it is in. -/
theorem forms_apart : (lowerRuns.all fun run => changing.all run.forms.apart) = true := by
  decide +kernel

/-- The small forms of a run are code points of characters. -/
theorem forms_valid : ∀ run ∈ lowerRuns, 0 ≤ run.chars.first + run.distance ∧
    (run.chars.last + run.distance < 0xD800 ∨
      0xDFFF < run.chars.first + run.distance ∧ run.chars.last + run.distance < 0x110000) := by
  decide +kernel

theorem toNat_ofNat_of_valid {n : Nat} (h : n.isValidChar) : (Char.ofNat n).toNat = n := by
  rw [Char.ofNat, dif_pos h]
  rfl

/-- The small form of a character of a run is one of the small forms of the run. -/
theorem forms_covers {run : LowerRun} (hrun : run ∈ lowerRuns) {c : Char}
    (h : run.chars.covers c.toNat = true) :
    run.forms.covers (Char.ofNat (c.toNat + run.distance).toNat).toNat = true := by
  have hfirst := Run.first_le_of_covers h
  have hlast := Run.le_last_of_covers h
  obtain ⟨hnonneg, hvalid⟩ := forms_valid run hrun
  have hchar : (c.toNat + run.distance).toNat.isValidChar := by
    unfold Nat.isValidChar
    omega
  have hoffset : (c.toNat + run.distance).toNat - (run.chars.first + run.distance).toNat =
      c.toNat - run.chars.first := by
    omega
  simp only [Run.covers, Bool.and_eq_true, decide_eq_true_eq, beq_iff_eq] at h
  simp only [Run.covers, LowerRun.forms, toNat_ofNat_of_valid hchar, hoffset, Bool.and_eq_true,
    decide_eq_true_eq, beq_iff_eq]
  exact ⟨⟨by omega, by omega⟩, h.2⟩

/-- **No small form changes again.** -/
theorem not_changing_of_mem_lowerChar {c d : Char} (h : d ∈ lowerChar c) :
    changing.has d = false := by
  unfold lowerChar at h
  split at h
  · have hletter : changing.has 'i' = false := by decide +kernel
    have hdot : changing.has '\u0307' = false := by decide +kernel
    rcases List.mem_cons.1 h with rfl | h
    · exact hletter
    · obtain rfl := List.mem_singleton.1 h
      exact hdot
  · next hdotted =>
    split at h
    · next run hfind =>
      obtain rfl := List.mem_singleton.1 h
      have hrun := List.mem_of_find?_eq_some hfind
      have hcovers : run.chars.covers c.toNat = true := by
        simpa only using List.find?_some hfind
      have hapart := List.all_eq_true.1 (List.all_eq_true.1 forms_apart run hrun)
      refine List.any_eq_false.2 fun other hother => ?_
      rw [Run.apart_of_covers (hapart other hother) (forms_covers hrun hcovers)]
      exact Bool.false_ne_true
    · next hfind =>
      obtain rfl := List.mem_singleton.1 h
      exact not_changing_iff.2 ⟨hdotted, hfind⟩

/-! ## Texts in small letters -/

/-- A text in which nothing changes is its own small form, wherever it stands. -/
theorem lowerAfter_of_not_changing {cs : List Char} (h : ∀ c ∈ cs, changing.has c = false)
    (before : List Char) : lowerAfter before cs = cs := by
  induction cs generalizing before with
  | nil => rfl
  | cons c cs ih =>
    obtain ⟨hc, hcs⟩ := List.forall_mem_cons.1 h
    have hsigma : c ≠ 'Σ' := by
      rintro rfl
      exact absurd hc (by decide +kernel)
    simp only [lowerAfter, if_neg hsigma, lowerChar_of_not_changing hc, ih hcs, List.singleton_append]

theorem not_changing_of_mem_lowerAfter {cs : List Char} {before : List Char} :
    ∀ d ∈ lowerAfter before cs, changing.has d = false := by
  induction cs generalizing before with
  | nil => exact nofun
  | cons c cs ih =>
    intro d hd
    rw [lowerAfter] at hd
    rcases List.mem_append.1 hd with hd | hd
    · have hfinal : changing.has 'ς' = false := by decide +kernel
      have hsigma : changing.has 'σ' = false := by decide +kernel
      split at hd
      · split at hd
        · obtain rfl := List.mem_singleton.1 hd
          exact hfinal
        · obtain rfl := List.mem_singleton.1 hd
          exact hsigma
      · exact not_changing_of_mem_lowerChar hd
    · exact ih d hd

/-- **Small letters stay small letters.** -/
theorem lower_lower (cs : List Char) : lower (lower cs) = lower cs :=
  lowerAfter_of_not_changing not_changing_of_mem_lowerAfter []

theorem fold_fold (cs : List Char) : fold (fold cs) = fold cs := by
  cases h : cs.any isUpper with
  | false => rw [fold_of_not_any_isUpper h, fold_of_not_any_isUpper h]
  | true =>
    have hcs : fold cs = lower cs := if_pos h
    rw [hcs, fold, lower_lower, ite_self]

/-- **Folding twice is folding once.** -/
@[simp] theorem foldName_foldName (name : String) : foldName (foldName name) = foldName name := by
  rw [foldName, toList_foldName, fold_fold, foldName]

end Formulary.Text
