import Formulary.Evaluation.Walk
import Formulary.Proofs.Evaluation.Outcome
import Formulary.Proofs.Parser.Reader

/-!
# Proofs/Parser/Soundness — what the parser accepts is derived

A piece is `Sound` if the grammar derives it from the tokens it was read off. Readers keep this up
level by level: an operand is sound if what nests in it is, and extending a sound piece by an operator
yields a sound one, because an operator is taken only where it binds less than the bound of the
stratum read so far.
-/

namespace Formulary.Parser

open Text

variable {T : Type} [Numeric T]

/-- A piece is derived from the tokens it was read off, its depth is the height of the expression, and
its calls resolve. -/
structure Sound (ctx : Context T) (n : Nat) (k : Stratum) (input : List Char)
    (p : Piece (Expr T)) : Prop where
  derives : ∃ ts, Lexes ctx.locale input ts p.rest ∧ Derives ctx n k ts p.value
  depth_eq : p.depth = p.value.height
  depth_le : p.depth ≤ maxDepth
  validate_eq : p.value.validate ctx.functions = .ok ()

/-- A reader finds sound pieces, and stops before an operator that binds less than asked for. -/
def SoundReader (ctx : Context T) (n : Nat) (reader : Reader T) : Prop :=
  ∀ strength input p, reader.find strength input = .ok p →
    Sound ctx n (.ofStrength strength) input p ∧ Below strength p.rest

theorem eq_of_checked {α : Type} {p q : Piece α} (h : p.checked = .ok q) :
    q = p ∧ p.depth ≤ maxDepth := by
  unfold Piece.checked at h
  split at h
  · cases h
  · next hle =>
    cases h
    exact ⟨rfl, Nat.not_lt.1 hle⟩

namespace Sound

variable {ctx : Context T} {n : Nat} {k : Stratum} {input : List Char} {p : Piece (Expr T)}

theorem looser {k' : Stratum} (h : Sound ctx n k input p) (hrank : k'.rank ≤ k.rank) :
    Sound ctx n k' input p := by
  obtain ⟨ts, hlexes, hderives⟩ := h.derives
  exact ⟨⟨ts, hlexes, .looser hrank hderives⟩, h.depth_eq, h.depth_le, h.validate_eq⟩

/-- An expression without parts is sound. -/
theorem leaf {ts : List Token} {e : Expr T} {rest : List Char}
    (hlexes : Lexes ctx.locale input ts rest) (hderives : Derives ctx n k ts e)
    (hleaf : e.isLeaf = true) : Sound ctx n k input ⟨e, 1, rest⟩ :=
  ⟨⟨ts, hlexes, hderives⟩, (height_of_isLeaf hleaf).symm, (by decide : 1 ≤ maxDepth),
    validate_of_isLeaf hleaf⟩

/-- **An operator joins sound pieces to a sound one.** -/
theorem join {op : Infix} {after : List Char} {right q : Piece (Expr T)}
    (hleft : Sound ctx (n + 1) op.leftStratum input p)
    (hop : infix? (dropBlanks p.rest) = some (op, after))
    (hright : Sound ctx n op.rightStratum after right) (hq : (joined op p right).checked = .ok q) :
    Sound ctx (n + 1) op.stratum input q := by
  obtain ⟨rfl, hdepth⟩ := eq_of_checked hq
  obtain ⟨ls, hls, hl⟩ := hleft.derives
  obtain ⟨rs, hrs, hr⟩ := hright.derives
  have hlexes : Lexes ctx.locale input (ls ++ .operator op :: rs) right.rest :=
    hls.append (.cons (.operator hop) hrs)
  refine ⟨⟨_, hlexes, .operator hl hr⟩, ?_, hdepth, ?_⟩
  · change max p.depth right.depth + 1 = _
    rw [hleft.depth_eq, hright.depth_eq, joined, height_build, Nat.add_comm]
  · rw [joined, validate_build, hleft.validate_eq, hright.validate_eq]
    rfl

/-- A plus sign keeps a piece sound. -/
theorem plus {after : List Char} (hinput : dropBlanks input = '+' :: after)
    (h : Sound ctx n .signed after p) : Sound ctx (n + 1) .signed input p := by
  obtain ⟨ts, hlexes, hderives⟩ := h.derives
  have hplus : infix? (dropBlanks input) = some (.binary .add, after) := by
    rw [hinput]
    rfl
  exact ⟨⟨_, .cons (.operator hplus) hlexes, .plus hderives⟩, h.depth_eq, h.depth_le, h.validate_eq⟩

/-- Parentheses keep a piece sound. -/
theorem group {after : List Char} {q : Piece (Expr T)} (hinput : dropBlanks input = '(' :: after)
    (h : Sound ctx n .comparison after p) (hq : closed ctx p = .ok q) :
    Sound ctx (n + 1) .atom input q := by
  obtain ⟨ts, hlexes, hderives⟩ := h.derives
  unfold closed at hq
  split at hq
  · next rest hclosing =>
    cases hq
    have hgroup := Lexes.cons (.opening hinput) (hlexes.append (.singleton (.closing hclosing)))
    exact ⟨⟨_, hgroup, .group hderives⟩, h.depth_eq, h.depth_le, h.validate_eq⟩
  · cases hq

end Sound

/-! ## Operators -/

section Readers

variable {ctx : Context T} {n : Nat} {reader : Reader T} (hreader : SoundReader ctx n reader)
include hreader

/-- **Operators after a sound piece.** The bound of its stratum says which of them can take it as what
stands before them. -/
theorem sound_extend {strength : Nat} {k : Stratum} {input : List Char} {p q : Piece (Expr T)}
    (hp : Sound ctx (n + 1) k input p) (hbelow : Below k.bound p.rest)
    (hrank : (Stratum.ofStrength strength).rank ≤ k.rank)
    (hq : extend reader strength p = .ok q) :
    Sound ctx (n + 1) (.ofStrength strength) input q ∧ Below strength q.rest := by
  -- every operator leaves less text; the stratum read so far changes with it
  induction hlength : p.rest.length using Nat.strongRecOn generalizing p k with
  | ind length ih =>
    rcases below_or_exists strength p.rest with hstop | ⟨op, after, hop, hle⟩
    · rw [extend_stop hstop] at hq
      cases hq
      obtain ⟨ts, hlexes, hderives⟩ := (hp.looser hrank).derives
      have hrest : Lexes ctx.locale input ts (dropBlanks p.rest) :=
        hlexes.trans_dropBlanks (dropBlanks_dropBlanks _).symm
      refine ⟨⟨⟨ts, hrest, hderives⟩, hp.depth_eq, hp.depth_le, hp.validate_eq⟩, ?_⟩
      rw [Below, dropBlanks_dropBlanks]
      exact hstop
    · rw [extend_step hop hle] at hq
      obtain ⟨right, hfind, hq⟩ := bind_eq_ok hq
      obtain ⟨whole, hwhole, hq⟩ := bind_eq_ok hq
      obtain ⟨hright, hbelow'⟩ := hreader _ _ _ hfind
      rw [Infix.ofStrength_right] at hright
      rw [Infix.right_eq_bound] at hbelow'
      have hleft := hp.looser (Infix.left_lt_bound_iff.1 (hbelow op after hop))
      have hsound := hleft.join hop hright hwhole
      have hshorter : whole.rest.length < length := by
        have hrest := length_lt_of_find hfind
        have hafter := length_lt_of_infix? hop
        have hblanks := length_dropBlanks_le p.rest
        rw [(eq_of_checked hwhole).1]
        change right.rest.length < length
        omega
      have hbelow'' : Below op.stratum.bound whole.rest := by
        rw [(eq_of_checked hwhole).1]
        exact hbelow'
      exact ih _ hshorter hsound hbelow'' (Infix.rank_ofStrength_le hle) hq rfl

/-! ## Calls -/

/-- Arguments are sound one by one. -/
structure SoundArguments (ctx : Context T) (n : Nat) (input : List Char)
    (p : Piece (List (Expr T))) : Prop where
  derives : ∃ parts : List (List Token × Expr T), parts.map (·.2) = p.value ∧
    Lexes ctx.locale input (Token.separated (parts.map (·.1)) ++ [.closing]) p.rest ∧
    ∀ q ∈ parts, Derives ctx n .comparison q.1 q.2
  depth_eq : p.depth = Expr.heights p.value
  validate_eq : Expr.validateAll ctx.functions p.value = .ok ()

theorem sound_arguments {input : List Char} {p : Piece (List (Expr T))}
    (hp : (arguments ctx reader input).map Arguments.piece = .ok p) :
    SoundArguments ctx n input p ∧ p.value ≠ [] := by
  induction hlength : input.length using Nat.strongRecOn generalizing input p with
  | ind length ih =>
    rw [arguments_eq] at hp
    obtain ⟨first, hfind, hp⟩ := bind_eq_ok hp
    obtain ⟨hfirst, -⟩ := hreader _ _ _ hfind
    obtain ⟨ts, hlexes, hderives⟩ := hfirst.derives
    have hshorter := length_lt_of_find hfind
    have hblanks := length_dropBlanks_le first.rest
    unfold furtherArguments at hp
    split at hp
    · cases hp
    next c rest hrest =>
    have hcut : rest.length + 1 = (dropBlanks first.rest).length := by rw [hrest]; rfl
    split at hp
    · next hseparator =>
      subst hseparator
      obtain ⟨more, hmore, hp⟩ := bind_eq_ok hp
      cases hp
      obtain ⟨hsound, hne⟩ := ih rest.length (by omega) hmore rfl
      obtain ⟨parts, hvalue, hparts, hall⟩ := hsound.derives
      have hparts_ne : parts.map (·.1) ≠ [] := by
        intro hnil
        rw [← hvalue, List.map_eq_nil_iff.1 hnil] at hne
        exact hne rfl
      refine ⟨⟨⟨(ts, first.value) :: parts, ?_, ?_, ?_⟩, ?_, ?_⟩, List.cons_ne_nil _ _⟩
      · rw [List.map_cons, hvalue]
      · rw [List.map_cons, Token.separated_cons hparts_ne, List.append_assoc]
        exact hlexes.append (.cons (.separator hrest) hparts)
      · exact List.forall_mem_cons.2 ⟨hderives, hall⟩
      · change max first.depth more.depth = _
        rw [hfirst.depth_eq, hsound.depth_eq, Expr.heights]
      · simp only [Expr.validateAll, hfirst.validate_eq, hsound.validate_eq]
        rfl
    · split at hp
      · next hclosing =>
        subst hclosing
        cases hp
        refine ⟨⟨⟨[(ts, first.value)], rfl, ?_, ?_⟩, ?_, ?_⟩, List.cons_ne_nil _ _⟩
        · exact hlexes.append (.singleton (.closing hrest))
        · exact List.forall_mem_cons.2 ⟨hderives, nofun⟩
        · change first.depth = _
          rw [hfirst.depth_eq, Expr.heights, Expr.heights, Nat.max_zero]
        · simp only [Expr.validateAll, hfirst.validate_eq]
          rfl
      · cases hp

theorem sound_argumentList {input : List Char} {p : Piece (List (Expr T))}
    (hp : (argumentList ctx reader input).map Arguments.piece = .ok p) :
    SoundArguments ctx n input p := by
  by_cases hclosing : ∃ rest, dropBlanks input = ')' :: rest
  · obtain ⟨rest, hrest⟩ := hclosing
    rw [argumentList_none hrest] at hp
    cases hp
    exact ⟨⟨[], rfl, .singleton (.closing hrest), nofun⟩, rfl, rfl⟩
  · rw [argumentList_some (fun rest h => hclosing ⟨rest, h⟩)] at hp
    obtain ⟨hsound, -⟩ := sound_arguments hreader hp
    obtain ⟨parts, hvalue, hlexes, hall⟩ := hsound.derives
    exact ⟨⟨parts, hvalue, hlexes.of_dropBlanks (dropBlanks_dropBlanks input).symm, hall⟩,
      hsound.depth_eq, hsound.validate_eq⟩

/-- **Names and calls are sound.** -/
theorem sound_named {c : Char} {rest input : List Char} {p : Piece (Expr T)}
    (hc : isNameStart c = true) (hinput : dropBlanks input = c :: rest)
    (hp : (named ctx reader c rest hc).map Parsed.piece = .ok p) :
    Sound ctx (n + 1) .atom input p := by
  have hname : Starts ctx.locale (dropBlanks input)
      (.name (String.ofList ((c :: rest).takeWhile isNameChar)))
      ((c :: rest).dropWhile isNameChar) := by
    rw [← hinput]
    exact .name hc hinput
  by_cases hopening : ∃ after, dropBlanks ((c :: rest).dropWhile isNameChar) = '(' :: after
  · obtain ⟨after, hafter⟩ := hopening
    rw [named_call hc hafter] at hp
    obtain ⟨arguments, harguments, hp⟩ := bind_eq_ok hp
    obtain ⟨q, hq, hp⟩ := bind_eq_ok hp
    obtain ⟨info, hresolve, hp⟩ := bind_eq_ok hp
    cases hp
    obtain ⟨rfl, hdepth⟩ := eq_of_checked hq
    have hsound := sound_argumentList hreader harguments
    obtain ⟨parts, hvalue, hlexes, hall⟩ := hsound.derives
    refine ⟨⟨_, .cons hname (.cons (.opening hafter) hlexes), ?_⟩, ?_, hdepth, ?_⟩
    · have hderives := Derives.call (String.ofList ((c :: rest).takeWhile isNameChar)) hall
      rwa [hvalue] at hderives
    · change arguments.depth + 1 = _
      rw [hsound.depth_eq, Expr.height, Nat.add_comm]
    · simp only [Expr.validate, hresolve, hsound.validate_eq]
      rfl
  · rw [named_alone hc fun after h => hopening ⟨after, h⟩] at hp
    cases hp
    have hlexes := (Lexes.singleton hname).trans_dropBlanks (dropBlanks_dropBlanks _).symm
    exact .leaf hlexes (.name _) (isLeaf_nameExpr _ _)

/-! ## Signs -/

omit hreader in
/-- Where a sign belongs to the number after it, the parser takes it. -/
theorem signed_ne_none {input rest : List Char} {ts : List Token} (hsign : TakesSign ctx ts)
    (hlexes : Lexes ctx.locale input ts rest) (hbelow : Below Stratum.signed.bound rest) :
    signed? ctx input ≠ .ok none := by
  obtain ⟨hfolds, text, rfl, hzero⟩ := hsign
  obtain ⟨after, hstarts, hrest⟩ := hlexes.of_cons
  cases hstarts with
  | number hnumber hscan =>
    have hon : (ctx.foldsSign && atNumber ctx.locale (dropBlanks input)) = true := by
      rw [hfolds, hnumber]
      rfl
    rw [signed_eq hon, hscan]
    cases hread : (read ctx.locale true text : Except _ (Expr T)) with
    | error error => exact nofun
    | ok literal =>
      rw [hread] at hzero
      have hpower : ∀ after', dropBlanks after ≠ '^' :: after' := by
        rw [hrest.eq_of_nil]
        exact hbelow.ne_power
      have htaken := signTaken_some (fun h => hzero (congrArg Except.ok h)) hpower
      change Except.ok (signTaken literal (dropBlanks after)) ≠ _
      rw [htaken]
      exact nofun

omit hreader in
/-- **A sign that the parser does not take negates what stands after it.** -/
theorem sound_neg {input rest : List Char} {p q : Piece (Expr T)}
    (hinput : dropBlanks input = '-' :: rest) (hsigned : signed? ctx rest = .ok none)
    (hp : Sound ctx n .signed rest p) (hbelow : Below Stratum.signed.bound p.rest)
    (hq : Piece.checked ⟨.neg p.value, p.depth + 1, p.rest⟩ = .ok q) :
    Sound ctx (n + 1) .signed input q ∧ q.rest = p.rest := by
  obtain ⟨rfl, hdepth⟩ := eq_of_checked hq
  obtain ⟨ts, hlexes, hderives⟩ := hp.derives
  have hsign : ¬TakesSign ctx ts := fun h => signed_ne_none h hlexes hbelow hsigned
  have hminus : infix? (dropBlanks input) = some (.binary .sub, rest) := by
    rw [hinput]
    rfl
  refine ⟨⟨⟨_, .cons (.operator hminus) hlexes, .neg hsign hderives⟩, ?_, hdepth, hp.validate_eq⟩, rfl⟩
  change p.depth + 1 = _
  rw [hp.depth_eq, Expr.height, Nat.add_comm]

omit hreader in
/-- **A sign that the parser takes belongs to the number after it.** -/
theorem sound_signed {input rest : List Char} {p : Piece (Expr T)}
    (hinput : dropBlanks input = '-' :: rest) (hp : signed? ctx rest = .ok (some p)) :
    Sound ctx (n + 1) .signed input p ∧ Below Stratum.signed.bound p.rest := by
  cases hon : ctx.foldsSign && atNumber ctx.locale (dropBlanks rest) with
  | false =>
    rw [signed_off hon] at hp
    cases hp
  | true =>
    obtain ⟨hfolds, hnumber⟩ := Bool.and_eq_true_iff.1 hon
    rw [signed_eq hon] at hp
    obtain ⟨literal, hread, hp⟩ := bind_eq_ok hp
    obtain ⟨hzero, hpower, rfl⟩ := eq_of_signTaken (Except.ok.inj hp)
    have hminus : infix? (dropBlanks input) = some (.binary .sub, rest) := by
      rw [hinput]
      rfl
    have hlexes := (Lexes.cons (.operator hminus) (.singleton (.number hnumber rfl))).trans_dropBlanks
      (dropBlanks_dropBlanks _).symm
    refine ⟨.leaf hlexes (.literal hfolds hread hzero) (isLeaf_of_read hread), ?_⟩
    exact below_signed_of_ne_power (by rwa [dropBlanks_dropBlanks])

/-! ## Operands and expressions -/

/-- **Operands are sound**, and no power follows one with a sign. -/
theorem sound_operand {input : List Char} {p : Piece (Expr T)}
    (hp : findOperand ctx reader (dropBlanks input) = .ok p) :
    ∃ k : Stratum, Stratum.signed.rank ≤ k.rank ∧ Sound ctx (n + 1) k input p ∧
      Below k.bound p.rest := by
  cases hinput : dropBlanks input with
  | nil =>
    rw [hinput] at hp
    cases hp
  | cons c rest =>
    rw [hinput, findOperand] at hp
    split at hp
    · next hminus =>
      subst hminus
      obtain ⟨literal?, hsigned, hp⟩ := bind_eq_ok hp
      cases literal? with
      | some q =>
        cases hp
        exact ⟨.signed, Nat.le_refl _, sound_signed hinput hsigned⟩
      | none =>
        obtain ⟨q, hfind, hp⟩ := bind_eq_ok hp
        obtain ⟨hsound, hbelow⟩ := hreader _ _ _ hfind
        have hbelow' : Below Stratum.signed.bound q.rest := hbelow.mono (by decide)
        obtain ⟨hneg, hrest⟩ := sound_neg hinput hsigned hsound hbelow' hp
        exact ⟨.signed, Nat.le_refl _, hneg, hrest ▸ hbelow'⟩
    split at hp
    · next hplus =>
      subst hplus
      obtain ⟨hsound, hbelow⟩ := hreader _ _ _ hp
      exact ⟨.signed, Nat.le_refl _, hsound.plus hinput, hbelow.mono (by decide)⟩
    split at hp
    · next hopening =>
      subst hopening
      obtain ⟨q, hfind, hp⟩ := bind_eq_ok hp
      obtain ⟨hsound, -⟩ := hreader _ _ _ hfind
      exact ⟨.atom, by decide, hsound.group hinput hp, below_atom _⟩
    split at hp
    · next hnumber =>
      obtain ⟨literal, hread, hp⟩ := bind_eq_ok hp
      cases hp
      have hstarts : Starts ctx.locale (dropBlanks input)
          (.number (scan ctx.locale (c :: rest)).1) (scan ctx.locale (c :: rest)).2 := by
        rw [hinput]
        exact .number hnumber rfl
      exact ⟨.atom, by decide, .leaf (.singleton hstarts) (.number hread) (isLeaf_of_read hread),
        below_atom _⟩
    split at hp
    · next hname => exact ⟨.atom, by decide, sound_named hreader hname hinput hp, below_atom _⟩
    · cases hp

omit hreader in
/-- **Every level finds sound pieces.** -/
theorem soundReader_level (ctx : Context T) (budget : Nat) :
    SoundReader ctx budget (level ctx budget) := by
  induction budget with
  | zero => exact fun strength input p hp => nomatch hp
  | succ budget ih =>
    intro strength input p hp
    rw [find_succ] at hp
    obtain ⟨first, hfirst, hp⟩ := bind_eq_ok hp
    obtain ⟨k, hrank, hsound, hbelow⟩ := sound_operand ih hfirst
    exact sound_extend ih hsound hbelow
      (Nat.le_trans (Stratum.rank_ofStrength_le_signed strength) hrank) hp

end Readers

/-- What the parser accepts is derived from the tokens of the whole text within its budget. Its calls
resolve, and it has at most `maxDepth` levels. -/
theorem derives_of_whole {ctx : Context T} {input : List Char} {e : Expr T}
    (h : whole ctx input = .ok e) :
    DenotesWithin ctx maxDepth input e ∧ e.validate ctx.functions = .ok () ∧ e.height ≤ maxDepth := by
  by_cases hblank : dropBlanks input = []
  · rw [whole, if_pos (all_isBlank_iff.2 hblank)] at h
    cases h
  · rw [whole_eq hblank] at h
    obtain ⟨p, hp, h⟩ := bind_eq_ok h
    obtain ⟨hsound, -⟩ := soundReader_level ctx maxDepth _ _ _ hp
    unfold completed at h
    split at h
    · next hrest =>
      cases h
      obtain ⟨ts, hlexes, hderives⟩ := hsound.derives
      refine ⟨⟨ts, hlexes.trans_dropBlanks hrest, hderives⟩, hsound.validate_eq, ?_⟩
      rw [← hsound.depth_eq]
      exact hsound.depth_le
    · cases h

/-- **What the parser accepts is denoted** by the whole text. -/
theorem sound_whole {ctx : Context T} {input : List Char} {e : Expr T} (h : whole ctx input = .ok e) :
    Denotes ctx input e ∧ e.validate ctx.functions = .ok () ∧ e.height ≤ maxDepth := by
  obtain ⟨hdenotes, hrest⟩ := derives_of_whole h
  exact ⟨⟨_, hdenotes⟩, hrest⟩

end Formulary.Parser
