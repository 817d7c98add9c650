import Formulary.Formula
import Formulary.Number.Fixed.Instance
import Formulary.Proofs.NameMap
import Formulary.Proofs.Text.Fold

/-!
# Proofs/Formula/Scope — what a scope makes of bindings

Preparing bindings is described by two notions that do not mention how it is done: which names a scope
`Reserves`, and what a name means in it (`meaning?`). Both look names up and nothing else, so that
neither the order of any map nor the short cut for complete bindings can be seen in the outcome
(`prepare_correct`).
-/

namespace Formulary

open Text

variable {T : Type}

namespace Bindings

/-- A name that has a value, as it is stored. -/
def Binds (b : Bindings T) (name : String) : Prop :=
  ∃ value, b.getFolded? name = some value

theorem contains_eq (b : Bindings T) (name : String) : b.contains name = (b.get? name).isSome :=
  rfl

theorem get?_foldName (b : Bindings T) (name : String) : b.get? (foldName name) = b.get? name := by
  rw [get?, get?, foldName_foldName]

end Bindings

theorem ConstantRegistry.get?_foldName (registry : ConstantRegistry T) (name : String) :
    registry.get? (foldName name) = registry.get? name := by
  rw [get?, get?, foldName_foldName]

theorem FunctionRegistry.get?_foldName (registry : FunctionRegistry T) (name : String) :
    registry.get? (foldName name) = registry.get? name := by
  rw [get?, get?, foldName_foldName]

namespace Scope

/-! ## Names in a scope -/

/-- A name that cannot be bound: a function has it, or a constant that cannot be overwritten. -/
def Reserves (scope : Scope T) (name : String) : Prop :=
  (∃ info, scope.functions.get? name = some info) ∨
    ∃ info, scope.constants.get? name = some info ∧ info.overwritable = false

/-- What a name means: the value it is bound to, or else that of the constant with this name. -/
def meaning? (scope : Scope T) (bindings : Bindings T) (name : String) : Option T :=
  (bindings.get? name).or ((scope.constants.get? name).map (·.value))

variable {scope : Scope T} {bindings : Bindings T} {name : String}

theorem isReserved_iff : scope.isReserved name = true ↔ scope.Reserves name := by
  have hconstant : (scope.constants.protected? name).isSome = true ↔
      ∃ info, scope.constants.get? name = some info ∧ info.overwritable = false := by
    rw [ConstantRegistry.protected?, Option.isSome_iff_exists]
    simp only [Option.filter_eq_some_iff, Bool.not_eq_true']
  have hfunction : scope.functions.contains name = true ↔
      ∃ info, scope.functions.get? name = some info := Option.isSome_iff_exists
  rw [isReserved, Bool.or_eq_true, hconstant, hfunction, or_comm, Reserves]

/-- All spellings of a name are reserved or none is. -/
theorem reserves_foldName : scope.Reserves (foldName name) ↔ scope.Reserves name := by
  rw [Reserves, Reserves, FunctionRegistry.get?_foldName, ConstantRegistry.get?_foldName]

/-! ## Completing bindings -/

/-- Constants are added one by one, each unless its name has a value. -/
theorem getFolded?_foldl {key : String} (hkey : foldName key = key)
    (entries : List (String × ConstantInfo T)) (b : Bindings T) :
    (entries.foldl (fun b p => if b.contains p.1 then b else b.insertFolded p.1 p.2.value)
        b).getFolded? key =
      (b.getFolded? key).or ((getEntry key entries).map (·.value)) := by
  induction entries generalizing b with
  | nil => simp [getEntry]
  | cons p rest ih =>
    obtain ⟨name, info⟩ := p
    rw [List.foldl_cons, ih, getEntry]
    by_cases hname : name = key
    · subst hname
      have hcontains : b.contains name = (b.getFolded? name).isSome := by
        rw [Bindings.contains_eq, Bindings.get?, hkey]
      rw [if_pos rfl, hcontains]
      cases hvalue : b.getFolded? name with
      | some value => simp [hvalue]
      | none => simp [Bindings.getFolded?_insertFolded_self]
    · rw [if_neg hname]
      split
      · rfl
      · rw [Bindings.getFolded?_insertFolded_of_ne _ _ (Ne.symm hname)]

/-- **Merging gives every name its meaning.** -/
theorem get?_merge (scope : Scope T) (bindings : Bindings T) (name : String) :
    (scope.merge bindings).get? name = scope.meaning? bindings name :=
  getFolded?_foldl (foldName_foldName name) scope.constants.infos.entries bindings

/-- **Bindings of every constant need no merging.** -/
theorem get?_of_complete (h : scope.constants.infos.names.all bindings.contains = true)
    (name : String) : bindings.get? name = scope.meaning? bindings name := by
  rw [meaning?]
  cases hconstant : scope.constants.get? name with
  | none => simp
  | some info =>
    have hmem : foldName name ∈ scope.constants.infos.names :=
      NameMap.mem_names_iff.2 ⟨info, hconstant⟩
    have hbound := List.all_eq_true.1 h _ hmem
    rw [Bindings.contains_eq, Bindings.get?_foldName, Option.isSome_iff_exists] at hbound
    obtain ⟨value, hvalue⟩ := hbound
    simp [hvalue]

/-! ## Preparing bindings -/

/-- How preparing bindings ends: refused for a bound name that is reserved, or with bindings in which
every name has its meaning. -/
inductive Prepares (scope : Scope T) (bindings : Bindings T) :
    Except FormulaError (Bindings T) → Prop where
  | refused {name : String} : bindings.Binds name → scope.Reserves name →
    Prepares scope bindings (.error (.reservedVariableName name))
  | completed {prepared : Bindings T} : (∀ name, bindings.Binds name → ¬scope.Reserves name) →
    (∀ name, prepared.get? name = scope.meaning? bindings name) →
      Prepares scope bindings (.ok prepared)

theorem prepares (scope : Scope T) (bindings : Bindings T) :
    scope.Prepares bindings (scope.prepare bindings) := by
  rw [prepare]
  cases hfind : bindings.entries.find? fun p => scope.isReserved p.1 with
  | some p =>
    obtain ⟨name, value⟩ := p
    have hbound : bindings.Binds name :=
      ⟨value, NameMap.mem_entries_iff.1 (List.mem_of_find?_eq_some hfind)⟩
    have hreserved : scope.isReserved name = true := by simpa using List.find?_some hfind
    exact .refused hbound (isReserved_iff.1 hreserved)
  | none =>
    have hfree : ∀ name, bindings.Binds name → ¬scope.Reserves name := by
      rintro name ⟨value, hvalue⟩ hreserved
      exact List.find?_eq_none.1 hfind _ (NameMap.mem_entries_iff.2 hvalue)
        (isReserved_iff.2 hreserved)
    dsimp only
    split
    · next hcomplete => exact .completed hfree (get?_of_complete hcomplete)
    · exact .completed hfree (get?_merge scope bindings)

theorem exists_of_prepare_error {error : FormulaError} (h : scope.prepare bindings = .error error) :
    ∃ name, error = .reservedVariableName name ∧ bindings.Binds name ∧ scope.Reserves name := by
  have hprepares := scope.prepares bindings
  rw [h] at hprepares
  cases hprepares with
  | refused hbound hreserved => exact ⟨_, rfl, hbound, hreserved⟩

section Accepted

variable {prepared : Bindings T} (h : scope.prepare bindings = .ok prepared)
include h

theorem completed_of_prepare : (∀ name, bindings.Binds name → ¬scope.Reserves name) ∧
    ∀ name, prepared.get? name = scope.meaning? bindings name := by
  have hprepares := scope.prepares bindings
  rw [h] at hprepares
  cases hprepares with
  | completed hfree hmeaning => exact ⟨hfree, hmeaning⟩

/-- A name that is reserved has no value in bindings that are accepted. -/
theorem get?_eq_none_of_reserves (hname : scope.Reserves name) : bindings.get? name = none := by
  refine Option.eq_none_iff_forall_ne_some.2 fun value hvalue => ?_
  exact (completed_of_prepare h).1 (foldName name) ⟨value, hvalue⟩ (reserves_foldName.2 hname)

/-- **A constant that cannot be overwritten has its value** in all bindings that are accepted. -/
theorem get?_of_protected {info : ConstantInfo T}
    (hinfo : scope.constants.protected? name = some info) : prepared.get? name = some info.value := by
  obtain ⟨hget, hfixed⟩ := Option.filter_eq_some_iff.1 hinfo
  have hreserved : scope.Reserves name := .inr ⟨info, hget, by simpa using hfixed⟩
  rw [(completed_of_prepare h).2, meaning?, get?_eq_none_of_reserves h hreserved, hget]
  rfl

end Accepted

/-! ## Nothing depends on an order -/

/-- Scopes with the same entries, in whatever order. -/
structure Reorders (scope scope' : Scope T) : Prop where
  constants : scope.constants.infos.Reorders scope'.constants.infos
  functions : scope.functions.infos.Reorders scope'.functions.infos

/-- Outcomes of preparing bindings that differ at most in the reserved name reported or in the order of
the values. -/
inductive Alike : Except FormulaError (Bindings T) → Except FormulaError (Bindings T) → Prop where
  | refused (name name' : String) :
    Alike (.error (.reservedVariableName name)) (.error (.reservedVariableName name'))
  | completed {prepared prepared' : Bindings T} :
    (∀ name, prepared.get? name = prepared'.get? name) → Alike (.ok prepared) (.ok prepared')

section Order

variable {scope' : Scope T} {bindings' : Bindings T}

theorem Reorders.reserves_iff (h : scope.Reorders scope') :
    scope.Reserves name ↔ scope'.Reserves name := by
  rw [Reserves, Reserves, FunctionRegistry.get?, FunctionRegistry.get?, ConstantRegistry.get?,
    ConstantRegistry.get?, h.functions.find?_eq, h.constants.find?_eq]

theorem Reorders.meaning?_eq (h : scope.Reorders scope')
    (hbindings : bindings.values.Reorders bindings'.values) :
    scope.meaning? bindings name = scope'.meaning? bindings' name := by
  rw [meaning?, meaning?, Bindings.get?, Bindings.get?, Bindings.getFolded?, Bindings.getFolded?,
    ConstantRegistry.get?, ConstantRegistry.get?, hbindings.find?_eq, h.constants.find?_eq]

theorem Prepares.alike (h : scope.Reorders scope')
    (hbindings : bindings.values.Reorders bindings'.values)
    {outcome outcome' : Except FormulaError (Bindings T)} (hprepares : scope.Prepares bindings outcome)
    (hprepares' : scope'.Prepares bindings' outcome') : Alike outcome outcome' := by
  have hbinds (name : String) : bindings.Binds name ↔ bindings'.Binds name := by
    rw [Bindings.Binds, Bindings.Binds, Bindings.getFolded?, Bindings.getFolded?, hbindings.find?_eq]
  cases hprepares with
  | refused hbound hreserved =>
    cases hprepares' with
    | refused => exact .refused ..
    | completed hfree =>
      exact (hfree _ ((hbinds _).1 hbound) (h.reserves_iff.1 hreserved)).elim
  | completed hfree hget =>
    cases hprepares' with
    | refused hbound hreserved =>
      exact (hfree _ ((hbinds _).2 hbound) (h.reserves_iff.2 hreserved)).elim
    | completed hfree' hget' =>
      exact .completed fun name => by rw [hget, hget', h.meaning?_eq hbindings]

end Order

/-- **Preparing bindings is right, on both of its paths.** Bindings are refused exactly if a bound name
is reserved, and such a name is reported. Otherwise every name has its meaning in what is prepared,
whether the bindings are taken as they are or completed. No order of entries matters, except for which
reserved name is reported. -/
theorem prepare_correct (scope : Scope T) (bindings : Bindings T) :
    ((∃ error, scope.prepare bindings = .error error) ↔
        ∃ name, bindings.Binds name ∧ scope.Reserves name) ∧
      (∀ error, scope.prepare bindings = .error error →
        ∃ name, error = .reservedVariableName name ∧ bindings.Binds name ∧ scope.Reserves name) ∧
      (∀ prepared, scope.prepare bindings = .ok prepared →
        ∀ name, prepared.get? name = scope.meaning? bindings name) ∧
      (scope.constants.infos.names.all bindings.contains = true →
        ∀ name, bindings.get? name = (scope.merge bindings).get? name) ∧
      ∀ scope' bindings', scope.Reorders scope' → bindings.values.Reorders bindings'.values →
        Alike (scope.prepare bindings) (scope'.prepare bindings') := by
  refine ⟨⟨?_, ?_⟩, fun error => exists_of_prepare_error,
    fun prepared h => (completed_of_prepare h).2, ?_, ?_⟩
  · rintro ⟨error, herror⟩
    obtain ⟨name, -, hname⟩ := exists_of_prepare_error herror
    exact ⟨name, hname⟩
  · rintro ⟨name, hbound, hreserved⟩
    cases hprepare : scope.prepare bindings with
    | error error => exact ⟨error, rfl⟩
    | ok prepared => exact ((completed_of_prepare hprepare).1 name hbound hreserved).elim
  · intro hcomplete name
    rw [get?_of_complete hcomplete, get?_merge]
  · intro scope' bindings' h hbindings
    exact (scope.prepares bindings).alike h hbindings (scope'.prepares bindings')

/-- A rate can be bound under any spelling, and `pi` keeps its value; it cannot be bound. -/
theorem prepare_correct_rate :
    let scope : Scope Fixed :=
      ⟨(ConstantRegistry.empty.insert (.ofValue "Pi" Numeric.pi false)).insert
        (.ofValue "rate" Numeric.e true), .empty⟩
    let bindings : Bindings Fixed := Bindings.empty.insert "RATE" Numeric.one
    (∃ prepared, scope.prepare bindings = .ok prepared ∧ prepared.get? "Rate" = some Numeric.one ∧
        prepared.get? "PI" = some Numeric.pi ∧ prepared.get? "x" = none) ∧
      ∃ error, scope.prepare (bindings.insert "pI" Numeric.zero) = .error error := by
  intro scope bindings
  obtain ⟨hrefused, -, hcompleted, -⟩ := prepare_correct scope bindings
  have hfree : ¬∃ error, scope.prepare bindings = .error error := by
    rw [hrefused]
    rintro ⟨name, ⟨value, hvalue⟩, hreserved⟩
    have hentries : bindings.entries = [("rate", Numeric.one)] := by with_unfolding_all rfl
    have hmem : (name, value) ∈ bindings.entries := NameMap.mem_entries_iff.2 hvalue
    rw [hentries, List.mem_singleton, Prod.mk.injEq] at hmem
    have hname : scope.isReserved "rate" = false := by with_unfolding_all rfl
    rw [hmem.1, ← isReserved_iff, hname] at hreserved
    cases hreserved
  have hbound : (bindings.insert "pI" Numeric.zero).Binds "pi" :=
    ⟨Numeric.zero, by with_unfolding_all rfl⟩
  have hreserved : scope.Reserves "pi" :=
    .inr ⟨.ofValue "Pi" Numeric.pi false, by with_unfolding_all rfl, rfl⟩
  refine ⟨?_, (prepare_correct scope _).1.2 ⟨"pi", hbound, hreserved⟩⟩
  cases hprepared : scope.prepare bindings with
  | error error => exact (hfree ⟨error, hprepared⟩).elim
  | ok prepared =>
    have hget := hcompleted prepared hprepared
    refine ⟨prepared, rfl, ?_, ?_, ?_⟩
    · exact (hget "Rate").trans (by with_unfolding_all rfl)
    · exact (hget "PI").trans (by with_unfolding_all rfl)
    · exact (hget "x").trans (by with_unfolding_all rfl)

end Scope

end Formulary
