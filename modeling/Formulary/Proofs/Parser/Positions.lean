import Formulary.Proofs.Parser.Acceptance
import Formulary.Proofs.Parser.Operands

/-!
# Proofs/Parser/Positions — positions while reading and in errors

The parser on bytes finds what the parser on characters finds: its levels of nesting are used up together
with the budget, and a loop over operators leaves less of the text with every round. What is true of a
cursor that tracks the rest of a text is then true of every step: it is at a boundary, not past the end,
and an error about a place in the text is about the place of the cursor.
-/

namespace Formulary.Parser

open Text

variable {text : String} {n : Nat} {rest : List Char} {T : Type}

/-! ## Nesting -/

namespace Cursor

variable {s : Cursor}

theorem Before.accept (h : s.Before text n rest) (hlt : n < maxDepth) :
    s.enter.accept.Before text (n + 1) rest where
  sound := by
    refine ⟨h.sound.pos_mem, h.sound.isBoundary, Nat.max_le.2 ⟨h.sound.deepest_le, ?_⟩⟩
    change s.nesting + 1 ≤ maxDepth
    rw [h.nesting_eq]
    exact hlt
  suffix := h.suffix
  pos_eq := h.pos_eq
  nesting_eq := congrArg (· + 1) h.nesting_eq

theorem Sound.leave (h : s.Sound text) : s.leave.Sound text :=
  ⟨h.pos_mem, h.isBoundary, h.deepest_le⟩

theorem Before.leave (h : s.Before text (n + 1) rest) : s.leave.Before text n rest where
  sound := h.sound.leave
  suffix := h.suffix
  pos_eq := h.pos_eq
  nesting_eq := congrArg (· - 1) h.nesting_eq

theorem Locates.leave {error : FormulaError} (h : s.Locates text error) :
    s.leave.Locates text error := by
  cases error with
  | _ => exact h

end Cursor

namespace Scan

variable {α : Type}

theorem runFrom_enter (s : Cursor) : enter.runFrom s =
    if maxDepth < s.nesting + 1 then (.error (.error (.tooDeep maxDepth)), s.enter)
    else (.ok (), s.enter.accept) := by
  change (checkLevels (s.nesting + 1) >>= fun _ => modify Cursor.accept : Scan Unit).runFrom s.enter = _
  rw [checkLevels]
  split <;> rfl

/-- An expression within one more level of nesting. -/
theorem tracks_nested {m : Scan α} {found : Except FormulaError (α × List Char)} (hlt : n < maxDepth)
    (h : Tracks text (n + 1) rest m found) :
    Tracks text n rest (do enter; leaving m) found := by
  intro s hs
  have hnot : ¬maxDepth < s.nesting + 1 := by
    rw [hs.nesting_eq]
    omega
  have henter : enter.runFrom s = (.ok (), s.enter.accept) := by
    rw [runFrom_enter, if_neg hnot]
  have hm := h _ (hs.accept hlt)
  rw [runFrom_bind_of_ok henter]
  change Follows text n found ((m.runFrom s.enter.accept).1, (m.runFrom s.enter.accept).2.leave)
  generalize m.runFrom s.enter.accept = run at hm
  cases hm with
  | done hdone => exact .done hdone.leave
  | failed hsound hlocates => exact .failed hsound.leave hlocates.leave

/-- **No more expressions nest than the limit allows.** -/
theorem tracks_refused {m : Scan α} :
    Tracks text maxDepth rest (do enter; leaving m) (.error (.tooDeep maxDepth)) := by
  intro s hs
  have hdeep : maxDepth < s.nesting + 1 := by
    rw [hs.nesting_eq]
    exact Nat.lt_succ_self _
  have henter : enter.runFrom s = (.error (.error (.tooDeep maxDepth)), s.enter) := by
    rw [runFrom_enter, if_pos hdeep]
  rw [runFrom_bind_of_error henter]
  exact .failed ⟨hs.sound.pos_mem, hs.sound.isBoundary, hs.sound.deepest_le⟩ trivial

/-! ## Operators -/

variable {reader : Reader T} {scanner : Nat → Scan (Expr T × Nat)}

theorem dropBlanks_suffix (h : rest <:+ text.toList) : dropBlanks rest <:+ text.toList :=
  (List.dropWhile_suffix _).trans h

/-- Where no operator binds strongly enough, the expression ends. -/
theorem tracks_operator_stop {strength : Nat} (h : Below strength rest) (left : Expr T × Nat) :
    Tracks text n rest (operator text scanner strength left) (.ok (.inr left, dropBlanks rest)) := by
  refine .of_suffix fun hsuffix => tracks_skipBlanks.andThen (tracks_here.andThen ?_)
  have hrest := dropBlanks_suffix hsuffix
  cases hop : infix? (dropBlanks rest) with
  | none =>
    rw [infixAt?_eq_none hrest hop]
    exact tracks_pure _
  | some found =>
    obtain ⟨op, after⟩ := found
    obtain ⟨size, hfound, -, -⟩ := exists_infixAt? hrest hop
    rw [hfound]
    change Tracks text n _ (if op.left < strength then _ else _) _
    rw [if_pos (h op after hop)]
    exact tracks_pure _

/-- An operator that binds strongly enough, and the expression after it. -/
theorem tracks_operator_step {strength : Nat} {op : Infix} {after : List Char}
    (hreader : TracksReader text n scanner reader) (hop : infix? (dropBlanks rest) = some (op, after))
    (hle : strength ≤ op.left) (left : Piece (Expr T)) :
    Tracks text n rest (operator text scanner strength (left.value, left.depth))
      ((reader.find op.right after >>= fun right => (joined op left right).checked).map
        fun p => (.inl (p.value, p.depth), p.rest)) := by
  refine .of_suffix fun hsuffix => tracks_skipBlanks.andThen (tracks_here.andThen ?_)
  obtain ⟨size, hfound, hsize, hafter⟩ := exists_infixAt? (dropBlanks_suffix hsuffix) hop
  rw [hfound]
  change Tracks text n _ (if op.left < strength then _ else _) _
  rw [if_neg (Nat.not_lt.2 hle)]
  refine (tracks_advance_to hsize hafter).andThen ?_
  refine Tracks.bind (hreader op.right after) fun right _ => ?_
  exact tracks_checked_pure (p := joined op left right) rfl

/-- **Operators are the same in bytes**, round by round. -/
theorem tracks_operators (hreader : TracksReader text n scanner reader) (strength : Nat)
    (p : Piece (Expr T)) :
    Tracks text n p.rest (loop text (operator text scanner strength) (p.value, p.depth))
      ((extend reader strength p).map Piece.found) := by
  refine tracks_loop (fun left rest found =>
    found = (extend reader strength ⟨left.1, left.2, rest⟩).map Piece.found) ?_ rfl
  rintro left rest found rfl
  rcases below_or_exists strength rest with hbelow | ⟨op, after, hop, hle⟩
  · right
    rw [extend_stop (p := ⟨left.1, left.2, rest⟩) hbelow]
    exact tracks_operator_stop hbelow left
  · have hround := tracks_operator_step hreader hop hle ⟨left.1, left.2, rest⟩
    rw [extend_step (p := ⟨left.1, left.2, rest⟩) hop hle]
    cases hfind : reader.find op.right after with
    | error error =>
      rw [hfind] at hround
      exact .inr hround
    | ok right =>
      rw [hfind] at hround
      change Tracks text n rest _ ((joined op ⟨left.1, left.2, rest⟩ right).checked.map _) at hround
      rcases Nat.lt_or_ge maxDepth (joined op ⟨left.1, left.2, rest⟩ right).depth with hdeep | hok
      · right
        rw [Piece.checked_of_lt hdeep] at hround
        change Tracks text n rest _ ((((joined op ⟨left.1, left.2, rest⟩ right).checked >>=
          extend reader strength).map Piece.found).map _)
        rw [Piece.checked_of_lt hdeep]
        exact hround
      · left
        rw [Piece.checked_of_le hok] at hround
        refine ⟨_, right.rest, ?_, ?_, hround⟩
        · have hshorter := length_lt_of_find hfind
          have hblanks := length_dropBlanks_le rest
          have hop := length_lt_of_infix? hop
          omega
        · change ((joined op ⟨left.1, left.2, rest⟩ right).checked >>=
            extend reader strength).map Piece.found = _
          rw [Piece.checked_of_le hok]
          rfl

/-! ## Expressions -/

variable {ctx : Context T} [Numeric T]

theorem tracks_expression (hsize : ctx.size = text.utf8ByteSize) (hsign : ctx.foldsSign = true)
    (hreader : TracksReader text n scanner reader) (strength : Nat) :
    Tracks text n rest (expression text ctx scanner strength)
      ((findOperand ctx reader (dropBlanks rest) >>= extend reader strength).map Piece.found) := by
  refine tracks_skipBlanks.andThen ?_
  have hoperand := tracks_operand (dropBlanks rest) hsize hsign hreader
  rw [dropBlanks_dropBlanks] at hoperand
  exact Tracks.bind hoperand fun p _ => tracks_operators hreader strength p

/-- **Expressions are the same in bytes**, by induction on the budget: what is left of it and the
expressions being read are the limit together. -/
theorem tracks_level (hsize : ctx.size = text.utf8ByteSize) (hsign : ctx.foldsSign = true)
    {budget fuel : Nat} (hnesting : n + budget = maxDepth) (hfuel : budget < fuel) :
    TracksReader text n (level text ctx fuel) (Parser.level ctx budget) := by
  induction budget generalizing n fuel with
  | zero =>
    obtain rfl : n = maxDepth := hnesting
    intro strength rest
    cases fuel with
    | zero => exact absurd hfuel (Nat.lt_irrefl 0)
    | succ fuel => exact tracks_refused
  | succ budget ih =>
    intro strength rest
    cases fuel with
    | zero => exact absurd hfuel (Nat.not_lt_zero _)
    | succ fuel =>
      have hreader : TracksReader text (n + 1) (level text ctx fuel) (Parser.level ctx budget) :=
        ih (by omega) (by omega)
      rw [find_succ]
      exact tracks_nested (by omega) (tracks_expression hsize hsign hreader strength)

/-! ## Whole texts -/

omit [Numeric T] in
theorem tracks_completed (hsize : ctx.size = text.utf8ByteSize) (p : Piece (Expr T)) :
    Tracks text n p.rest (do
      skipBlanks text
      if (← here) = text.utf8ByteSize then pure p.value else refuse)
      ((completed ctx p).map fun e => (e, [])) := by
  refine .of_suffix fun hsuffix => tracks_skipBlanks.andThen (tracks_here.andThen ?_)
  have hrest := dropBlanks_suffix hsuffix
  cases hafter : dropBlanks p.rest with
  | nil =>
    have hcompleted : completed ctx p = .ok p.value := by simp only [completed, hafter]
    rw [if_pos offset_nil, hcompleted]
    exact tracks_pure _
  | cons c after =>
    have hcompleted : completed ctx p = .error (unexpected ctx (c :: after)) := by
      simp only [completed, hafter]
    rw [hafter] at hrest
    rw [if_neg (Nat.ne_of_lt (offset_lt hrest)), hcompleted, unexpected_cons hsize]
    exact tracks_refuse

theorem tracks_whole (hsize : ctx.size = text.utf8ByteSize) (hsign : ctx.foldsSign = true)
    (h : dropBlanks text.toList ≠ []) :
    Tracks text 0 text.toList (whole text ctx)
      ((Parser.whole ctx text.toList).map fun e => (e, [])) := by
  have hlevel : TracksReader text 0 (level text ctx (maxDepth + 1)) (Parser.level ctx maxDepth) :=
    tracks_level hsize hsign (Nat.zero_add _) (Nat.lt_succ_self _)
  rw [whole, if_neg (mt all_isBlank_iff.1 h), whole_eq h]
  exact Tracks.bind (hlevel 0 text.toList) fun p _ => tracks_completed hsize p

/-- **The parser on bytes comes to what the parser on characters comes to**, from the front of a text
on, at cursors that are sound and where an error says. -/
theorem ends_of_not_blank (hsize : ctx.size = text.utf8ByteSize) (hsign : ctx.foldsSign = true)
    (h : dropBlanks text.toList ≠ []) :
    ((whole text ctx).runFrom .start).1 = (Parser.whole ctx text.toList).mapError .error ∧
      ((whole text ctx).runFrom .start).2.Sound text ∧
      ∀ error, Parser.whole ctx text.toList = .error error →
        ((whole text ctx).runFrom .start).2.Locates text error := by
  have hfollows := tracks_whole hsize hsign h .start (Cursor.before_start text)
  generalize (whole text ctx).runFrom .start = run at hfollows ⊢
  cases hwhole : Parser.whole ctx text.toList with
  | ok e =>
    rw [hwhole] at hfollows
    cases hfollows with
    | done hbefore => exact ⟨rfl, hbefore.sound, nofun⟩
  | error error =>
    rw [hwhole] at hfollows
    cases hfollows with
    | failed hsound hlocates =>
      refine ⟨rfl, hsound, fun other hother => ?_⟩
      cases hother
      exact hlocates

end Scan

variable [Numeric T]

/-- **The parser is total, and its positions are exact.** Whatever the text, the marks of the locale and
the registries are, reading byte by byte comes to what `parse` comes to: no slice of the text is off a
boundary, and no loop or recursion goes on for longer than the text and the limit on nesting allow. On the
way the cursor is at boundaries only, and never are more expressions being read than the limit. An
unexpected token starts where the error says, before the end of the text; an unexpected end is the end of
the text; and a formula is empty exactly if it is blank. -/
theorem parse_positions (locale : Locale) (functions : FunctionRegistry T)
    (constants : ConstantRegistry T) (text : String) :
    let run := (Scan.whole text (formulaContext locale functions constants text)).runFrom .start
    run.1 = (parse locale functions constants text).mapError .error ∧
      (run.2.pos ∈ run.2.visited ∧
        ∀ i ∈ run.2.visited, IsBoundary text i ∧ i ≤ text.utf8ByteSize) ∧
      run.2.deepest ≤ maxDepth ∧
      (∀ i, parse locale functions constants text = .error (.unexpectedToken i) →
        i = run.2.pos ∧ i < text.utf8ByteSize ∧ IsBoundary text i) ∧
      (parse locale functions constants text = .error .unexpectedEnd →
        run.2.pos = text.utf8ByteSize) ∧
      (parse locale functions constants text = .error .emptyFormula ↔
        ∀ c ∈ text.toList, isBlank c = true) := by
  intro run
  have hparse : parse locale functions constants text =
      whole (formulaContext locale functions constants text) text.toList := rfl
  have hsize : (formulaContext locale functions constants text).size = text.utf8ByteSize :=
    byteSize_toList text
  have hbound : ∀ {s : Cursor}, s.Sound text → ∀ i ∈ s.visited,
      IsBoundary text i ∧ i ≤ text.utf8ByteSize := fun hsound i hi =>
    ⟨hsound.isBoundary i hi, (hsound.isBoundary i hi).le_rawEndPos⟩
  rw [← List.all_eq_true, all_isBlank_iff, hparse]
  by_cases hempty : dropBlanks text.toList = []
  · have hblank : text.toList.all isBlank = true := all_isBlank_iff.2 hempty
    have hwhole : whole (formulaContext locale functions constants text) text.toList =
        .error .emptyFormula := by
      rw [whole, if_pos hblank]
    have hrun : run = (.error (.error .emptyFormula), .start) := by
      change (Scan.whole text _).runFrom .start = _
      rw [Scan.whole, if_pos hblank]
      rfl
    have hsound := (Cursor.before_start text).sound
    rw [hwhole, hrun]
    refine ⟨rfl, ⟨hsound.pos_mem, hbound hsound⟩, hsound.deepest_le, fun i hi => ?_, fun hend => ?_,
      iff_of_true rfl hempty⟩
    · cases hi
    · cases hend
  · obtain ⟨hresult, hsound, hlocates⟩ := Scan.ends_of_not_blank hsize rfl hempty
    refine ⟨hresult, ⟨hsound.pos_mem, hbound hsound⟩, hsound.deepest_le, fun i hi => ?_,
      hlocates .unexpectedEnd, iff_of_false (fun h => hlocates _ h) hempty⟩
    obtain ⟨hpos, hlt⟩ := hlocates _ hi
    refine ⟨hpos, hlt, ?_⟩
    rw [hpos]
    exact hsound.isBoundary _ hsound.pos_mem

/-- The letter `é` is refused at its first byte, and its second byte is no boundary. -/
theorem parse_positions_letter :
    parse (T := Fixed) .french ∅ ∅ "x + é" = .error (.unexpectedToken 4) ∧
      4 < "x + é".utf8ByteSize ∧ IsBoundary "x + é" 4 ∧ ¬IsBoundary "x + é" 5 := by
  have hparse : parse (T := Fixed) .french ∅ ∅ "x + é" = .error (.unexpectedToken 4) := by cbv
  obtain ⟨-, -, -, htoken, -⟩ := parse_positions (T := Fixed) .french ∅ ∅ "x + é"
  obtain ⟨-, hlt, hboundary⟩ := htoken 4 hparse
  exact ⟨hparse, hlt, hboundary, by decide⟩

end Formulary.Parser
