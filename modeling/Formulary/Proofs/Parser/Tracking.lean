import Formulary.Proofs.Parser.Cursor
import Formulary.Proofs.Parser.Reader

/-!
# Proofs/Parser/Tracking — the cursor keeps up with the rest of the text

A cursor is `Before` the rest of a text if it stands at the offset of the rest and has been at
boundaries only. A step `Tracks` what the parser on characters finds in the rest: it comes to the same
result in front of what is left, or to the same error at the place that the error is about. So it never
stops for another reason.
-/

namespace Formulary.Parser

open Text

variable {text : String} {n : Nat} {rest : List Char}

/-! ## Cursors -/

namespace Cursor

/-- Every position so far is a boundary, and the nesting has stayed within the limit. -/
structure Sound (text : String) (s : Cursor) : Prop where
  pos_mem : s.pos ∈ s.visited
  isBoundary : ∀ i ∈ s.visited, IsBoundary text i
  deepest_le : s.deepest ≤ maxDepth

/-- The cursor stands in front of the rest of a text, with some expressions being read. -/
structure Before (text : String) (nesting : Nat) (rest : List Char) (s : Cursor) : Prop where
  sound : s.Sound text
  suffix : rest <:+ text.toList
  pos_eq : s.pos = offset text rest
  nesting_eq : s.nesting = nesting

/-- The cursor stands where an error says. -/
def Locates (text : String) (s : Cursor) : FormulaError → Prop
  | .unexpectedToken i => i = s.pos ∧ i < text.utf8ByteSize
  | .unexpectedEnd => s.pos = text.utf8ByteSize
  | .emptyFormula => False
  | _ => True

theorem before_start (text : String) : start.Before text 0 text.toList where
  sound := by
    refine ⟨List.mem_cons_self, fun i hi => ?_, Nat.zero_le _⟩
    rw [List.mem_singleton.1 hi, ← offset_toList text]
    exact isBoundary_offset (List.suffix_refl _)
  suffix := List.suffix_refl _
  pos_eq := (offset_toList text).symm
  nesting_eq := rfl

theorem Before.moveTo {s : Cursor} (h : s.Before text n rest) {rest' : List Char}
    (hrest : rest' <:+ text.toList) : (s.moveTo (offset text rest')).Before text n rest' where
  sound := by
    refine ⟨List.mem_cons_self, fun i hi => ?_, h.sound.deepest_le⟩
    rcases List.mem_cons.1 hi with rfl | hold
    · exact isBoundary_offset hrest
    · exact h.sound.isBoundary i hold
  suffix := hrest
  pos_eq := rfl
  nesting_eq := h.nesting_eq

end Cursor

namespace Scan

variable {α β γ δ σ : Type}

/-! ## Steps -/

theorem runFrom_bind_of_ok {m : Scan α} {f : α → Scan β} {s s' : Cursor} {a : α}
    (h : m.runFrom s = (.ok a, s')) : (m >>= f).runFrom s = (f a).runFrom s' := by
  change ExceptT.bindCont f (m.runFrom s).1 (m.runFrom s).2 = _
  rw [h]
  rfl

theorem runFrom_bind_of_error {m : Scan α} {f : α → Scan β} {s s' : Cursor} {halt : Halt}
    (h : m.runFrom s = (.error halt, s')) : (m >>= f).runFrom s = (.error halt, s') := by
  change ExceptT.bindCont f (m.runFrom s).1 (m.runFrom s).2 = _
  rw [h]
  rfl

/-- What a step comes to, given what is found in the rest of the text. -/
inductive Follows (text : String) (n : Nat) :
    Except FormulaError (α × List Char) → Except Halt α × Cursor → Prop where
  | done {p : α × List Char} {s : Cursor} : s.Before text n p.2 → Follows text n (.ok p) (.ok p.1, s)
  | failed {error : FormulaError} {s : Cursor} : s.Sound text → s.Locates text error →
    Follows text n (.error error) (.error (.error error), s)

/-- A step in front of the rest of a text comes to what is found in the rest. -/
def Tracks (text : String) (n : Nat) (rest : List Char) (m : Scan α)
    (found : Except FormulaError (α × List Char)) : Prop :=
  ∀ s : Cursor, s.Before text n rest → Follows text n found (m.runFrom s)

theorem Tracks.of_suffix {m : Scan α} {found : Except FormulaError (α × List Char)}
    (h : rest <:+ text.toList → Tracks text n rest m found) : Tracks text n rest m found :=
  fun s hs => h hs.suffix s hs

theorem tracks_pure (a : α) : Tracks text n rest (pure a) (.ok (a, rest)) :=
  fun _ hs => .done hs

/-- **One step after the other**, if the finding is one after the other too. -/
theorem Tracks.bind {m : Scan α} {f : α → Scan β} {x : Except FormulaError γ}
    {out : γ → α × List Char} {g : γ → Except FormulaError δ} {out' : δ → β × List Char}
    (h : Tracks text n rest m (x.map out))
    (h' : ∀ c, x = .ok c → Tracks text n (out c).2 (f (out c).1) ((g c).map out')) :
    Tracks text n rest (m >>= f) ((x >>= g).map out') := by
  intro s hs
  have hm := h s hs
  generalize hrun : m.runFrom s = run at hm
  cases x with
  | ok c =>
    cases hm with
    | done hdone =>
      rw [runFrom_bind_of_ok hrun]
      exact h' c rfl _ hdone
  | error error =>
    cases hm with
    | failed hsound hlocates =>
      rw [runFrom_bind_of_error hrun]
      exact .failed hsound hlocates

/-- A step that cannot fail. -/
theorem Tracks.andThen {m : Scan α} {f : α → Scan β} {a : α} {rest' : List Char}
    {found : Except FormulaError (β × List Char)} (h : Tracks text n rest m (.ok (a, rest')))
    (h' : Tracks text n rest' (f a) found) : Tracks text n rest (m >>= f) found := by
  intro s hs
  have hm := h s hs
  generalize hrun : m.runFrom s = run at hm
  cases hm with
  | done hdone =>
    rw [runFrom_bind_of_ok hrun]
    exact h' _ hdone

/-- A step that fails. -/
theorem Tracks.andFail {m : Scan α} {f : α → Scan β} {error : FormulaError}
    (h : Tracks text n rest m (.error error)) : Tracks text n rest (m >>= f) (.error error) := by
  intro s hs
  have hm := h s hs
  generalize hrun : m.runFrom s = run at hm
  cases hm with
  | failed hsound hlocates =>
    rw [runFrom_bind_of_error hrun]
    exact .failed hsound hlocates

theorem tracks_here : Tracks text n rest here (.ok (offset text rest, rest)) := by
  intro s hs
  rw [← hs.pos_eq]
  exact .done hs

theorem tracks_moveTo {rest' : List Char} (h : rest' <:+ text.toList) :
    Tracks text n rest (moveTo (offset text rest')) (.ok ((), rest')) :=
  fun _ hs => .done (hs.moveTo h)

theorem tracks_advance_to {size : Nat} {after : List Char}
    (hsize : offset text rest + size = offset text after) (hafter : after <:+ text.toList) :
    Tracks text n rest (advance size) (.ok ((), after)) := by
  refine tracks_here.andThen ?_
  rw [hsize]
  exact tracks_moveTo hafter

theorem tracks_advance {c : Char} {size : Nat} (h : c.utf8Size = size) :
    Tracks text n (c :: rest) (advance size) (.ok ((), rest)) := by
  refine .of_suffix fun hsuffix => tracks_advance_to ?_ ((List.suffix_cons c rest).trans hsuffix)
  rw [← h, offset_tail hsuffix]

theorem tracks_peek : Tracks text n rest (peek text) (.ok (rest.head?, rest)) := by
  refine .of_suffix fun hsuffix => tracks_here.andThen ?_
  rw [if_pos (isBoundary_offset hsuffix), charAt?_offset hsuffix]
  exact tracks_pure _

theorem tracks_fail {error : FormulaError}
    (h : ∀ s : Cursor, s.Before text n rest → s.Locates text error) :
    Tracks text n rest (fail error : Scan α) (.error error) :=
  fun s hs => .failed hs.sound (h s hs)

theorem tracks_unexpectedEnd : Tracks text n [] (fail .unexpectedEnd : Scan α) (.error .unexpectedEnd) :=
  tracks_fail fun _ hs => hs.pos_eq

theorem tracks_tooDeep {limit : Nat} :
    Tracks text n rest (fail (.tooDeep limit) : Scan α) (.error (.tooDeep limit)) :=
  tracks_fail fun _ _ => trivial

theorem tracks_refuse {c : Char} :
    Tracks text n (c :: rest) (refuse : Scan α) (.error (.unexpectedToken (offset text (c :: rest)))) :=
  tracks_here.andThen (tracks_fail fun _ hs => ⟨hs.pos_eq.symm, offset_lt hs.suffix⟩)

/-- A step that does not look at the text fails with no error about a place in it. -/
theorem tracks_lift {x : Except FormulaError α}
    (h : ∀ error, x = .error error → ∀ s : Cursor, s.Locates text error) :
    Tracks text n rest (lift x) (x.map fun a => (a, rest)) := by
  cases x with
  | ok a => exact tracks_pure a
  | error error => exact tracks_fail fun s _ => h error rfl s

theorem tracks_slice {whole front after : List Char} (hsplit : front ++ after = whole)
    (h : whole <:+ text.toList) :
    Tracks text n rest (slice text (offset text whole) (offset text after))
      (.ok (String.ofList front, rest)) := by
  subst hsplit
  have hafter : after <:+ text.toList := (List.suffix_append front after).trans h
  have hle : offset text (front ++ after) ≤ offset text after := by
    rw [offset, offset, byteSize_append]
    omega
  have hall : offset text (front ++ after) ≤ offset text after ∧
      IsBoundary text (offset text (front ++ after)) ∧ IsBoundary text (offset text after) :=
    ⟨hle, isBoundary_offset h, isBoundary_offset hafter⟩
  rw [slice, dif_pos hall, extract_offset h]
  exact tracks_pure _

/-! ## Loops -/

/-- **A loop whose rounds take from the text.** What `Goes` says of the state and the rest holds before
every round: either the round leaves less of the text, or it comes to what is found. The induction is on
the number of rounds, which the text bounds. -/
theorem tracks_loop {body : σ → Scan (σ ⊕ α)}
    (Goes : σ → List Char → Except FormulaError (α × List Char) → Prop)
    (hround : ∀ x rest found, Goes x rest found →
      (∃ x' rest', rest'.length < rest.length ∧ Goes x' rest' found ∧
        Tracks text n rest (body x) (.ok (.inl x', rest'))) ∨
      Tracks text n rest (body x) (found.map fun p => (.inr p.1, p.2)))
    {x : σ} {found : Except FormulaError (α × List Char)} (h : Goes x rest found) :
    Tracks text n rest (loop text body x) found := by
  have hrounds : ∀ fuel x rest found, rest.length < fuel → Goes x rest found →
      Tracks text n rest (rounds body fuel x) found := by
    intro fuel
    induction fuel with
    | zero => exact fun _ _ _ hlt => absurd hlt (Nat.not_lt_zero _)
    | succ fuel ih =>
      intro x rest found hlt hgoes
      rcases hround x rest found hgoes with ⟨x', rest', hshorter, hgoes', hbody⟩ | hbody
      · exact hbody.andThen (ih x' rest' found (by omega) hgoes')
      · cases found with
        | ok p => exact hbody.andThen (tracks_pure p.1)
        | error error => exact hbody.andFail
  refine .of_suffix fun hsuffix => hrounds _ x rest found ?_ h
  have hsize := offset_add_byteSize hsuffix
  have hlength := length_le_byteSize rest
  omega

theorem tracks_skipBlanks : Tracks text n rest (skipBlanks text) (.ok ((), dropBlanks rest)) := by
  refine tracks_loop (fun _ rest found => found = .ok ((), dropBlanks rest)) ?_ rfl
  rintro ⟨⟩ rest found rfl
  cases rest with
  | nil => exact .inr (tracks_peek.andThen (tracks_pure _))
  | cons c rest =>
    by_cases hblank : isBlank c = true
    · left
      refine ⟨(), rest, Nat.lt_succ_self _, ?_, tracks_peek.andThen ?_⟩
      · rw [dropBlanks, dropBlanks, List.dropWhile_cons_of_pos hblank]
      · change Tracks text n (c :: rest) (if isBlank c = true then _ else _) _
        rw [if_pos hblank]
        exact (tracks_advance rfl).andThen (tracks_pure _)
    · right
      refine tracks_peek.andThen ?_
      change Tracks text n (c :: rest) (if isBlank c = true then _ else _) _
      rw [if_neg hblank, dropBlanks, List.dropWhile_cons_of_neg hblank]
      exact tracks_pure _

end Scan

end Formulary.Parser
