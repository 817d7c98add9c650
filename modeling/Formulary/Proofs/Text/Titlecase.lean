import Formulary.Proofs.Text.Fold

/-!
# Proofs/Text/Titlecase — names that folding overlooks

Folding writes a name in small letters only if it holds a capital one. Every letter with a small form is
a capital or a titlecase letter such as `ǅ` (`isUpper_or_titlecase`), so that the short cut is right
except for the names that are `Overlooked`: those with titlecase letters and no capital. Such a name is
its own folded form and no other spelling of it (`foldName_lowers_iff`).
-/

namespace Formulary.Text

/-! ## Letters between capital and small -/

/-- The titlecase letters: digraphs of which the first half is a capital (`ǅ`, `ǈ`, `ǋ`, `ǲ`), and Greek
capitals with an iota beside them. -/
def titlecase : CharSet :=
  [⟨0x1C5, 0x1C5, 1⟩, ⟨0x1C8, 0x1C8, 1⟩, ⟨0x1CB, 0x1CB, 1⟩, ⟨0x1F2, 0x1F2, 1⟩, ⟨0x1F88, 0x1F8F, 1⟩,
   ⟨0x1F98, 0x1F9F, 1⟩, ⟨0x1FA8, 0x1FAF, 1⟩, ⟨0x1FBC, 0x1FBC, 1⟩, ⟨0x1FCC, 0x1FCC, 1⟩,
   ⟨0x1FFC, 0x1FFC, 1⟩]

namespace Run

/-- The code points of a run. -/
def codes (run : Run) : List Nat :=
  (List.range ((run.last - run.first) / run.step + 1)).map (run.first + · * run.step)

theorem mem_codes_of_covers {run : Run} {code : Nat} (h : run.covers code = true) :
    code ∈ run.codes := by
  have hfirst := first_le_of_covers h
  have hlast := le_last_of_covers h
  simp only [covers, Bool.and_eq_true, beq_iff_eq] at h
  have hcode : (code - run.first) / run.step * run.step = code - run.first :=
    Nat.div_mul_cancel (Nat.dvd_of_mod_eq_zero h.2)
  refine List.mem_map.2 ⟨(code - run.first) / run.step, List.mem_range.2 ?_, ?_⟩
  · exact Nat.lt_succ_of_le (Nat.div_le_div_right (Nat.sub_le_sub_right hlast _))
  · rw [hcode]
    omega

/-- Whether every code point of a run is in a class. Of the runs of the class, only those that overlap
with it are looked at. -/
def within (run : Run) (set : CharSet) : Bool :=
  let near := set.filter fun other =>
    Nat.ble other.first run.last && Nat.ble run.first other.last
  run.codes.all fun code => near.any (·.covers code)

end Run

theorem CharSet.has_of_within {set other : CharSet} (h : set.all (·.within other) = true) {c : Char}
    (hc : set.has c = true) : other.has c = true := by
  obtain ⟨run, hrun, hcovers⟩ := CharSet.has_iff.1 hc
  have hcodes := List.all_eq_true.1 (List.all_eq_true.1 h run hrun) _ (Run.mem_codes_of_covers hcovers)
  obtain ⟨found, hfound, hhas⟩ := List.any_eq_true.1 hcodes
  exact CharSet.has_iff.2 ⟨found, (List.mem_filter.1 hfound).1, hhas⟩

/-- ASCII letters are no exception. -/
theorem isUpper_eq (c : Char) : isUpper c = uppercase.has c := by
  rw [isUpper]
  split
  · next hascii =>
    have hlater : ∀ run ∈ uppercase.tail, 0x80 ≤ run.first := by decide +kernel
    have hrest : CharSet.has uppercase.tail c = false := by
      refine List.any_eq_false.2 fun run hrun hcovers => ?_
      have hfirst := Run.first_le_of_covers hcovers
      have hlow := hlater run hrun
      omega
    have hhas : uppercase.has c = ((Run.mk 0x41 0x5A 1).covers c.toNat || CharSet.has uppercase.tail c) :=
      rfl
    rw [hhas, hrest, Bool.or_false, Run.covers, Nat.mod_one, beq_self_eq_true, Bool.and_true]
    rfl
  · rfl

/-- **Every letter with a small form is a capital or a titlecase letter.** -/
theorem isUpper_or_titlecase {c : Char} (h : changing.has c = true) :
    isUpper c = true ∨ titlecase.has c = true := by
  have hall : changing.all (·.within (uppercase ++ titlecase)) = true := by decide +kernel
  have hhas := CharSet.has_of_within hall h
  rwa [CharSet.has, List.any_append, Bool.or_eq_true, ← CharSet.has, ← isUpper_eq, ← CharSet.has] at hhas

theorem changing_of_titlecase {c : Char} (h : titlecase.has c = true) : changing.has c = true :=
  CharSet.has_of_within (by decide +kernel) h

/-! ## Texts that are overlooked -/

/-- A text with a titlecase letter and no capital one. -/
def Overlooked (cs : List Char) : Prop :=
  cs.any isUpper = false ∧ ∃ c ∈ cs, titlecase.has c = true

variable {cs ds : List Char}

/-- A text is in small letters if none of its letters has a small form. -/
theorem lower_eq_self_iff : lower cs = cs ↔ ∀ c ∈ cs, changing.has c = false := by
  constructor
  · intro h c hc
    rw [← h] at hc
    exact not_changing_of_mem_lowerAfter c hc
  · exact fun h => lowerAfter_of_not_changing h []

theorem fold_of_any_isUpper (h : cs.any isUpper = true) : fold cs = lower cs :=
  if_pos h

theorem fold_of_overlooked (h : Overlooked cs) : fold cs = cs :=
  fold_of_not_any_isUpper h.1

/-- **Folding writes a text in small letters** unless it is overlooked. -/
theorem fold_eq_lower_iff : fold cs = lower cs ↔ ¬Overlooked cs := by
  constructor
  · rintro h ⟨hupper, c, hc, htitle⟩
    rw [fold_of_not_any_isUpper hupper] at h
    have hfixed := lower_eq_self_iff.1 h.symm c hc
    rw [changing_of_titlecase htitle] at hfixed
    cases hfixed
  · intro h
    cases hupper : cs.any isUpper with
    | true => exact fold_of_any_isUpper hupper
    | false =>
      rw [fold_of_not_any_isUpper hupper, eq_comm, lower_eq_self_iff]
      intro c hc
      refine Bool.eq_false_iff.2 fun hchanging => ?_
      rcases isUpper_or_titlecase hchanging with hc' | htitle
      · exact List.any_eq_false.1 hupper c hc hc'
      · exact h ⟨hupper, c, hc, htitle⟩

/-- The small form of a text is not overlooked. -/
theorem not_overlooked_lower : ¬Overlooked (lower cs) := by
  rintro ⟨-, c, hc, htitle⟩
  have hfixed := not_changing_of_mem_lowerAfter c hc
  rw [changing_of_titlecase htitle] at hfixed
  cases hfixed

/-- Two texts fold alike exactly if they have the same small form and neither is overlooked, apart from
a text and itself. -/
theorem fold_eq_fold_iff :
    fold ds = fold cs ↔ ds = cs ∨ lower ds = lower cs ∧ ¬Overlooked ds ∧ ¬Overlooked cs := by
  constructor
  · intro h
    by_cases hds : Overlooked ds <;> by_cases hcs : Overlooked cs
    · exact .inl (by rwa [fold_of_overlooked hds, fold_of_overlooked hcs] at h)
    · rw [fold_of_overlooked hds, fold_eq_lower_iff.2 hcs] at h
      exact (not_overlooked_lower (h ▸ hds)).elim
    · rw [fold_eq_lower_iff.2 hds, fold_of_overlooked hcs] at h
      exact (not_overlooked_lower (h ▸ hcs)).elim
    · rw [fold_eq_lower_iff.2 hds, fold_eq_lower_iff.2 hcs] at h
      exact .inr ⟨h, hds, hcs⟩
  · rintro (rfl | ⟨h, hds, hcs⟩)
    · rfl
    · rw [fold_eq_lower_iff.2 hds, fold_eq_lower_iff.2 hcs, h]

/-! ## Names -/

/-- A name in small letters. -/
def lowerName (name : String) : String :=
  String.ofList (lower name.toList)

/-- **Where the short cut of folding shows.** The folded form of a name is the name in small letters
unless the name is overlooked, and names in the same small letters are one name unless one of them is
overlooked: that one is another name than every other spelling. -/
theorem foldName_lowers_iff (name other : String) :
    (foldName name = lowerName name ↔ ¬Overlooked name.toList) ∧
      (foldName other = foldName name ↔
        other = name ∨ lowerName other = lowerName name ∧
          ¬Overlooked other.toList ∧ ¬Overlooked name.toList) := by
  have hinj {xs ys : List Char} : String.ofList xs = String.ofList ys ↔ xs = ys :=
    String.ofList_inj
  rw [foldName, foldName, lowerName, lowerName, hinj, hinj, hinj, ← String.toList_inj]
  exact ⟨fold_eq_lower_iff, fold_eq_fold_iff⟩

/-- `ǅ` and `ǆ` are two names, although `ǆ` is the small form of both. -/
theorem foldName_titlecase_ne :
    lowerName "ǅ" = "ǆ" ∧ lowerName "ǆ" = "ǆ" ∧ foldName "ǅ" ≠ lowerName "ǅ" ∧
      foldName "ǅ" ≠ foldName "ǆ" := by
  decide +kernel

end Formulary.Text
