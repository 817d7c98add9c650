import Formulary.Proofs.Formula.Errors
import Formulary.Proofs.Program.Pools
import Formulary.Proofs.Program.Stack

/-!
# Proofs/Program/Variables — the variables that a program loads

A variable enters its pool where it first occurs and under the name it is first written with.
`Interns` says so of the finished pool, by the names alone: one more name keeps it (`Interns.enter`),
and so do all of an expression. Bindings that agree on the pool are then the same to the expression,
and bindings of the whole pool leave no variable of it without a value.
-/

namespace Formulary

open Text

variable {T : Type}

/-! ## Pools of names -/

/-- Where a variable first occurs among names. -/
def VariableRef.firstIn (names : List String) (ref : VariableRef) : Nat :=
  names.findIdx fun name => foldName name == ref.folded

/-- A pool has an entry for each variable among names and no other, in the order in which the
variables first occur and with their first spellings. -/
structure Interns (names : List String) (refs : List VariableRef) : Prop where
  nodup : (refs.map (·.folded)).Nodup
  mem_iff : ∀ folded, folded ∈ refs.map (·.folded) ↔ folded ∈ names.map foldName
  written_eq : ∀ ref ∈ refs,
    names.find? (fun name => foldName name == ref.folded) = some ref.written
  ordered : refs.Pairwise fun ref later => ref.firstIn names < later.firstIn names

namespace Interns

theorem nil : Interns [] [] :=
  ⟨List.nodup_nil, fun _ => Iff.rfl, nofun, .nil⟩

variable {names : List String} {refs : List VariableRef}

theorem firstIn_lt (h : Interns names refs) {ref : VariableRef} (href : ref ∈ refs) :
    ref.firstIn names < names.length := by
  rw [VariableRef.firstIn, List.findIdx_lt_length]
  have hfound := h.written_eq ref href
  have hsame : (foldName ref.written == ref.folded) = true :=
    List.find?_some (p := fun name => foldName name == ref.folded) hfound
  exact ⟨ref.written, List.mem_of_find?_eq_some hfound, hsame⟩

/-- More names do not change where a variable first occurs. -/
theorem firstIn_append (h : Interns names refs) {ref : VariableRef} (href : ref ∈ refs)
    (more : List String) : ref.firstIn (names ++ more) = ref.firstIn names := by
  rw [VariableRef.firstIn, List.findIdx_append]
  exact if_pos (h.firstIn_lt href)

theorem written_append (h : Interns names refs) {ref : VariableRef} (href : ref ∈ refs)
    (more : List String) :
    (names ++ more).find? (fun name => foldName name == ref.folded) = some ref.written := by
  rw [List.find?_append, h.written_eq ref href]
  rfl

theorem ordered_append (h : Interns names refs) (more : List String) :
    refs.Pairwise fun ref later => ref.firstIn (names ++ more) < later.firstIn (names ++ more) := by
  refine h.ordered.imp_of_mem fun {ref later} href hlater hlt => ?_
  rwa [h.firstIn_append href, h.firstIn_append hlater]

/-- A variable that has occurred before. -/
theorem seen (h : Interns names refs) {name : String} (hseen : foldName name ∈ names.map foldName) :
    Interns (names ++ [name]) refs := by
  refine ⟨h.nodup, fun folded => ?_, fun ref href => h.written_append href _, h.ordered_append _⟩
  rw [h.mem_iff, List.map_append, List.mem_append, List.map_singleton, List.mem_singleton]
  exact ⟨.inl, fun hor => hor.elim id fun heq => heq ▸ hseen⟩

/-- A variable that occurs for the first time. -/
theorem fresh (h : Interns names refs) {name : String} (hnew : foldName name ∉ names.map foldName) :
    Interns (names ++ [name]) (refs ++ [⟨foldName name, name⟩]) := by
  have hnone : ∀ other ∈ names, ¬(foldName other == foldName name) = true := fun other hother heq =>
    hnew (List.mem_map.2 ⟨other, hother, by simpa using heq⟩)
  have hlast : VariableRef.firstIn (names ++ [name]) ⟨foldName name, name⟩ = names.length := by
    have hbefore := List.findIdx_eq_length.2 fun other hother => Bool.eq_false_iff.2 (hnone other hother)
    rw [VariableRef.firstIn, List.findIdx_append, if_neg (by rw [hbefore]; exact Nat.lt_irrefl _)]
    simp
  refine ⟨?_, fun folded => ?_, fun ref href => ?_, ?_⟩
  · rw [List.map_append, List.map_singleton, List.nodup_append_comm, List.singleton_append,
      List.nodup_cons, h.mem_iff]
    exact ⟨hnew, h.nodup⟩
  · simp only [List.map_append, List.mem_append, h.mem_iff, List.map_singleton]
  · rcases List.mem_append.1 href with hold | hlatest
    · exact h.written_append hold _
    · rw [List.mem_singleton.1 hlatest, List.find?_append, List.find?_eq_none.2 hnone]
      simp
  · rw [List.pairwise_append]
    refine ⟨h.ordered_append _, List.pairwise_singleton _ _, fun ref href later hlater => ?_⟩
    rw [List.mem_singleton.1 hlater, hlast, h.firstIn_append href]
    exact h.firstIn_lt href

/-- **One more name** in the pool of those before. -/
theorem enter {pool : Array VariableRef} (h : Interns names pool.toList) (name : String) :
    Interns (names ++ [name]) (withVariable pool name).toList := by
  have hseen : (pool.findIdx? (Assembly.isVariable name)).isSome = true ↔
      foldName name ∈ names.map foldName := by
    rw [Array.findIdx?_isSome, Array.any_eq_true', ← h.mem_iff, List.mem_map]
    simp only [Assembly.isVariable, beq_iff_eq, Array.mem_toList_iff]
  rw [withVariable, Pool.enter]
  split
  · next hsome => exact h.seen (hseen.1 hsome)
  · next hnone =>
    rw [Array.toList_push]
    exact h.fresh fun hmem => hnone (hseen.2 hmem)

/-- **More names**, by induction on them. -/
theorem foldl {pool : Array VariableRef} (h : Interns names pool.toList) (more : List String) :
    Interns (names ++ more) (more.foldl withVariable pool).toList := by
  induction more generalizing names pool with
  | nil =>
    rw [List.append_nil]
    exact h
  | cons name rest ih =>
    rw [← List.singleton_append, ← List.append_assoc]
    exact ih (h.enter name)

end Interns

/-! ## Compiled programs -/

namespace Program

/-- Bindings give the variables of a program the same values, or leave the same ones without. -/
def Agree (program : Program T) (b b' : Bindings T) : Prop :=
  ∀ folded ∈ program.variables, b.getFolded? folded = b'.getFolded? folded

/-- Bindings give every variable of a program a value. -/
def Binds (program : Program T) (b : Bindings T) : Prop :=
  ∀ folded ∈ program.variables, b.getFolded? folded ≠ none

variable [Numeric T] {functions : FunctionRegistry T} {e : Expr T} {program : Program T}

/-- The pools of a compiled program are read off its expression. -/
theorem pools_of_compile (h : compile functions e = .ok program) :
    Interns e.variableNames program.vars.toList ∧ program.constants.toList = e.literals := by
  obtain ⟨rfl, -, -⟩ := eq_lowered_of_compile h
  have hgathers : Assembly.Gathers functions e.nodes .empty (Assembly.lowered functions .empty e) :=
    Assembly.gathers_lowered e .empty
  constructor
  · have hinterns : Interns e.variableNames (e.variableNames.foldl withVariable #[]).toList :=
      Interns.nil.foldl e.variableNames
    change Interns _ (Assembly.lowered functions .empty e).vars.toList
    rwa [hgathers.vars_eq]
  · change (Assembly.lowered functions .empty e).constants.toList = _
    rw [hgathers.constants_eq]
    simp [Assembly.empty, Expr.literals]

/-- Every variable of the expression is loaded from the pool. -/
theorem mem_variables_of_compile (h : compile functions e = .ok program) {name : String}
    (hname : .var name ∈ e.nodes) : foldName name ∈ program.variables :=
  ((pools_of_compile h).1.mem_iff _).2 (List.mem_map_of_mem (Expr.mem_variableNames.2 hname))

/-- What compiles to a program is built by every backend, and is the walk whichever evaluates it. -/
theorem build_of_compile (h : compile functions e = .ok program) (backend : Backend) :
    backend.build functions e = .ok (fun b => e.evaluate functions b) ∧
      ∀ b, backend.execute functions e b = e.evaluate functions b := by
  obtain ⟨_, hdepth, -⟩ := bind_eq_ok h
  have hvalid := (eq_lowered_of_compile h).2.2
  have hwalk : Backend.interpreted.build functions e = .ok fun b => e.evaluate functions b := by
    rw [Backend.build, hdepth, hvalid]
    rfl
  have hbytecode : Backend.bytecode.build functions e = .ok fun b => e.evaluate functions b := by
    have hrun : Backend.bytecode.build functions e = .ok program.run := by
      rw [Backend.build, h]
      rfl
    rw [hrun, (Backend.evaluator_of_build hrun).2]
  cases backend with
  | interpreted =>
    refine ⟨hwalk, fun b => ?_⟩
    rw [Backend.execute, hdepth]
    rfl
  | compiled =>
    have hbuild := (Backend.build_compiled_eq functions e).trans hwalk
    refine ⟨hbuild, fun b => ?_⟩
    change Eval.ofExcept (Backend.compiled.build functions e) >>= _ = _
    rw [hbuild]
    rfl
  | bytecode =>
    refine ⟨hbytecode, fun b => ?_⟩
    change Eval.ofExcept (Backend.bytecode.build functions e) >>= _ = _
    rw [hbytecode]
    rfl

/-- With all variables of the program bound, only a call can fail for want of a variable: its body
says so. -/
theorem isCall_of_raises (h : compile functions e = .ok program) {b : Bindings T}
    (hb : program.Binds b) {node : Expr T} (hnode : node ∈ e.nodes) {name : String}
    (hraises : node.Raises functions b (.variableNotDefined name)) : node.asCall? ≠ none := by
  cases hraises with
  | var hnone => exact absurd hnone (hb _ (mem_variables_of_compile h hnode))
  | call _ _ _ => exact nofun

/-- **The pool of variables is exact and sufficient.** Every variable of an expression enters it once,
where it first occurs and under its first spelling, and the constants are those of the expression from
left to right. All backends evaluate the expression alike, and to the same end under bindings that
agree on the pool. If they bind all of it, then whatever reports an undefined variable is the body of a
function that the expression calls. -/
theorem compile_variables (h : compile functions e = .ok program) :
    Interns (e.postorder.filterMap Expr.asVariable?) program.vars.toList ∧
      program.constants.toList = e.postorder.filterMap Expr.asLiteral? ∧
      ∃ evaluator : Evaluator T,
        (∀ backend : Backend, backend.build functions e = .ok evaluator ∧
          ∀ b, backend.execute functions e b = evaluator b) ∧
        (∀ b b', program.Agree b b' → evaluator b = evaluator b') ∧
        ∀ b, program.Binds b → ∀ name, (evaluator b).result = .error (.variableNotDefined name) →
          ∃ node ∈ e.nodes, node.asCall? ≠ none ∧
            node.Raises functions b (.variableNotDefined name) := by
  rw [← Expr.variableNames_eq_postorder, ← Expr.literals_eq_postorder]
  obtain ⟨hvars, hconstants⟩ := pools_of_compile h
  refine ⟨hvars, hconstants, _, build_of_compile h, fun b b' hagree => ?_, fun b hb name hfails => ?_⟩
  · exact Expr.evaluate_congr functions fun name hname =>
      hagree _ (mem_variables_of_compile h hname)
  · have hvalid := (eq_lowered_of_compile h).2.2
    obtain ⟨node, hnode, hraises⟩ := Expr.raised_of_evaluate hvalid hfails
    exact ⟨node, hnode, isCall_of_raises h hb hnode hraises, hraises⟩

/-- Both variables of `X + x` are one, written as it first occurs. Bindings that agree on it give the
sum the same value. -/
theorem compile_variables_spellings :
    let e : Expr Fixed := .binary .add (.var "X") (.var "x")
    let b : Bindings Fixed := .ofList [("x", .one)]
    let b' : Bindings Fixed := .ofList [("y", .zero), ("X", .one)]
    ∃ program, compile .empty e = .ok program ∧ program.vars = #[⟨"x", "X"⟩] ∧
      program.Agree b b' ∧ ∀ backend : Backend,
        backend.execute .empty e b = backend.execute .empty e b' := by
  intro e b b'
  have hdepth : e.checkDepth = .ok () := Expr.checkDepth_eq_ok.2 (by decide)
  have hcompile : compile .empty e = .ok ⟨#[.pack .loadVar 0 0, .pack .loadVar 0 0,
      .pack (.binary .add) 0 0], #[], #[⟨"x", "X"⟩], #[], 2⟩ := by
    rw [compile, hdepth]
    with_unfolding_all rfl
  have hagree : Program.Agree (T := Fixed) ⟨#[.pack .loadVar 0 0, .pack .loadVar 0 0,
      .pack (.binary .add) 0 0], #[], #[⟨"x", "X"⟩], #[], 2⟩ b b' := by
    intro folded hfolded
    rw [List.mem_singleton.1 hfolded]
    with_unfolding_all rfl
  obtain ⟨-, -, evaluator, hbackends, hsame, -⟩ := compile_variables hcompile
  refine ⟨_, hcompile, rfl, hagree, fun backend => ?_⟩
  rw [(hbackends backend).2, (hbackends backend).2, hsame b b' hagree]

end Program

end Formulary
