import Formulary.Proofs.Formula.Scope
import Formulary.Proofs.Function.Registration

/-!
# Proofs/Formula/Names — names are stored folded

Every look-up folds the name it is asked for, and merging constants into bindings stores names as they
are found in a registry. So an entry can be found again only if its name is folded: no operation stores
another name (`NameMap.Folded`), and folding a folded name once more does not change it.
-/

namespace Formulary

open Text

variable {T α : Type}

/-! ## Maps with folded names -/

namespace NameMap

/-- Every name of a map is folded. -/
def Folded (m : NameMap α) : Prop :=
  ∀ name ∈ m.names, foldName name = name

variable {m : NameMap α} {name : String} {value : α}

theorem folded_empty : (empty : NameMap α).Folded :=
  nofun

theorem Folded.insert (h : m.Folded) (hname : foldName name = name) (value : α) :
    (m.insert name value).Folded := by
  intro key hkey
  rcases (mem_keys_setEntry m.entries).1 hkey with rfl | hold
  · exact hname
  · exact h key hold

theorem Folded.of_mem_entries (h : m.Folded) (hmem : (name, value) ∈ m.entries) :
    foldName name = name :=
  h name (List.mem_map_of_mem hmem)

/-- An entry of a map with folded names is found under its name, folded once more. -/
theorem Folded.find?_foldName (h : m.Folded) (hmem : (name, value) ∈ m.entries) :
    m.find? (foldName name) = some value := by
  rw [h.of_mem_entries hmem]
  exact mem_entries_iff.1 hmem

end NameMap

/-! ## Registries -/

namespace FunctionRegistry

/-- The registries that registering functions one by one leads to. -/
inductive Reachable : FunctionRegistry T → Prop where
  | empty : Reachable .empty
  | register {functions functions' : FunctionRegistry T} (name : String) (callable : Callable T)
      (overwritable : Bool) :
    Reachable functions → functions.register (.ofCallable name callable overwritable) = .ok functions' →
      Reachable functions'
  | registerSlice {functions functions' : FunctionRegistry T} (name : String) (arity : Arity)
      (label : String) (body : List T → Except FormulaError T) (overwritable : Bool) :
    Reachable functions →
      functions.register (.ofSlice name arity label body overwritable) = .ok functions' →
        Reachable functions'

variable {functions functions' : FunctionRegistry T} {info : FunctionInfo T}

theorem eq_insert_of_register (h : functions.register info = .ok functions') :
    functions' = functions.insert info := by
  by_cases hprotects : functions.Protects info.name
  · rw [register_of_protects hprotects] at h
    cases h
  · rw [register_of_not_protects hprotects] at h
    cases h
    rfl

theorem Reachable.folded (h : functions.Reachable) : functions.infos.Folded := by
  induction h with
  | empty => exact NameMap.folded_empty
  | register name callable overwritable _ hregister ih =>
    rw [eq_insert_of_register hregister]
    exact ih.insert (foldName_foldName name) _
  | registerSlice name arity label body overwritable _ hregister ih =>
    rw [eq_insert_of_register hregister]
    exact ih.insert (foldName_foldName name) _

theorem Reachable.registerAll (h : functions.Reachable) (entries : List (String × Callable T)) :
    (functions.registerAll entries).1.Reachable := by
  induction entries generalizing functions with
  | nil => exact h
  | cons entry rest ih =>
    obtain ⟨name, callable⟩ := entry
    rw [FunctionRegistry.registerAll]
    split
    · next functions' hregister => exact ih (.register name callable false h hregister)
    · exact h

end FunctionRegistry

namespace ConstantRegistry

/-- The registries that registering constants one by one leads to. -/
inductive Reachable : ConstantRegistry T → Prop where
  | empty : Reachable .empty
  | register {constants constants' : ConstantRegistry T} (name : String) (value : T)
      (overwritable : Bool) :
    Reachable constants → constants.register (.ofValue name value overwritable) = .ok constants' →
      Reachable constants'

variable {constants constants' : ConstantRegistry T} {info : ConstantInfo T}

theorem eq_insert_of_register (h : constants.register info = .ok constants') :
    constants' = constants.insert info := by
  by_cases hprotects : constants.Protects info.name
  · rw [register_of_protects hprotects] at h
    cases h
  · rw [register_of_not_protects hprotects] at h
    cases h
    rfl

theorem Reachable.folded (h : constants.Reachable) : constants.infos.Folded := by
  induction h with
  | empty => exact NameMap.folded_empty
  | register name value overwritable _ hregister ih =>
    rw [eq_insert_of_register hregister]
    exact ih.insert (foldName_foldName name) _

theorem Reachable.registerAll (h : constants.Reachable) (entries : List (String × T)) :
    (constants.registerAll entries).1.Reachable := by
  induction entries generalizing constants with
  | nil => exact h
  | cons entry rest ih =>
    obtain ⟨name, value⟩ := entry
    rw [ConstantRegistry.registerAll]
    split
    · next constants' hregister => exact ih (.register name value false h hregister)
    · exact h

end ConstantRegistry

/-! ## Bindings -/

namespace Bindings

/-- The bindings that a caller can make, and those that preparing them in a scope leads to. -/
inductive Reachable : Bindings T → Prop where
  | empty : Reachable .empty
  | insert {b : Bindings T} (name : String) (value : T) : Reachable b → Reachable (b.insert name value)
  | ofList (vars : List (String × T)) : Reachable (ofList vars)
  | ofVariables {vars : NameMap T} {b : Bindings T} : ofVariables? vars = .ok b → Reachable b
  | prepare {scope : Scope T} {b prepared : Bindings T} :
    scope.constants.Reachable → Reachable b → scope.prepare b = .ok prepared → Reachable prepared

variable {b b' : Bindings T}

theorem folded_insert (h : b.values.Folded) (name : String) (value : T) :
    (b.insert name value).values.Folded :=
  h.insert (foldName_foldName name) value

theorem folded_foldl_insert (h : b.values.Folded) (vars : List (String × T)) :
    (vars.foldl (fun b p => b.insert p.1 p.2) b).values.Folded := by
  induction vars generalizing b with
  | nil => exact h
  | cons p vars ih => exact ih (folded_insert h p.1 p.2)

theorem folded_addDistinct (h : b.values.Folded) {vars : List (String × T)}
    (hadd : b.addDistinct vars = .ok b') : b'.values.Folded := by
  induction vars generalizing b with
  | nil =>
    cases hadd
    exact h
  | cons p vars ih =>
    obtain ⟨name, value⟩ := p
    rw [addDistinct] at hadd
    split at hadd
    · cases hadd
    · exact ih (folded_insert h name value) hadd

/-- **Merging stores the names of constants as they are**, which are folded. -/
theorem folded_merge {scope : Scope T} (hconstants : scope.constants.infos.Folded)
    (h : b.values.Folded) : (scope.merge b).values.Folded := by
  rw [Scope.merge]
  suffices hfold : ∀ entries : List (String × ConstantInfo T),
      (∀ p ∈ entries, foldName p.1 = p.1) → ∀ b : Bindings T, b.values.Folded →
        (entries.foldl (fun b p => if b.contains p.1 then b else b.insertFolded p.1 p.2.value)
          b).values.Folded from
    hfold _ (fun p hp => hconstants.of_mem_entries hp) b h
  intro entries hentries
  induction entries with
  | nil => exact fun b h => h
  | cons p rest ih =>
    intro b h
    obtain ⟨hname, hrest⟩ := List.forall_mem_cons.1 hentries
    rw [List.foldl_cons]
    split
    · exact ih hrest b h
    · exact ih hrest _ (h.insert hname _)

theorem folded_prepare {scope : Scope T} (hconstants : scope.constants.infos.Folded)
    (h : b.values.Folded) (hprepare : scope.prepare b = .ok b') : b'.values.Folded := by
  rw [Scope.prepare] at hprepare
  split at hprepare
  · cases hprepare
  · split at hprepare
    · cases hprepare
      exact h
    · cases hprepare
      exact folded_merge hconstants h

theorem Reachable.folded (h : b.Reachable) : b.values.Folded := by
  induction h with
  | empty => exact NameMap.folded_empty
  | insert name value _ ih => exact folded_insert ih name value
  | ofList vars => exact folded_foldl_insert NameMap.folded_empty vars
  | ofVariables hvars => exact folded_addDistinct NameMap.folded_empty hvars
  | prepare hconstants _ hprepare ih => exact folded_prepare hconstants.folded ih hprepare

end Bindings

/-! ## Finding what is stored -/

/-- **Names are stored folded, and found as they are stored.** Folding a name twice is folding it once.
So in every registry and in all bindings that operations lead to, the name of an entry is its own folded
form and the one that its function or constant bears, and looking it up finds that entry. -/
theorem stored_names_folded :
    (∀ name : String, foldName (foldName name) = foldName name) ∧
      (∀ functions : FunctionRegistry T, functions.Reachable →
        ∀ name info, (name, info) ∈ functions.infos.entries →
          foldName name = name ∧ info.name = name ∧ functions.get? name = some info ∧
            functions.contains name = true) ∧
      (∀ constants : ConstantRegistry T, constants.Reachable →
        ∀ name info, (name, info) ∈ constants.infos.entries →
          foldName name = name ∧ info.name = name ∧ constants.get? name = some info ∧
            constants.contains name = true) ∧
      ∀ b : Bindings T, b.Reachable →
        (∀ name value, (name, value) ∈ b.entries →
          foldName name = name ∧ b.get? name = some value ∧ b.contains name = true) ∧
        ∀ name, b.get? name = b.getFolded? (foldName name) := by
  refine ⟨foldName_foldName, ?_, ?_, fun b hb => ⟨?_, fun _ => rfl⟩⟩
  · intro functions hfunctions name info hmem
    have hfind := hfunctions.folded.find?_foldName hmem
    exact ⟨hfunctions.folded.of_mem_entries hmem,
      functions.name_eq _ _ (NameMap.mem_entries_iff.1 hmem), hfind, Option.isSome_of_eq_some hfind⟩
  · intro constants hconstants name info hmem
    have hfind := hconstants.folded.find?_foldName hmem
    exact ⟨hconstants.folded.of_mem_entries hmem,
      constants.name_eq _ _ (NameMap.mem_entries_iff.1 hmem), hfind, Option.isSome_of_eq_some hfind⟩
  · intro name value hmem
    have hfind := hb.folded.find?_foldName hmem
    exact ⟨hb.folded.of_mem_entries hmem, hfind, Option.isSome_of_eq_some hfind⟩

/-- The final sigma of `ΟΔΟΣ` stays one when the name is folded again. A constant `Rate` is merged into
bindings of `X`; both are found as they are stored, and so is a built-in function. -/
theorem stored_names_folded_merge :
    let functions : FunctionRegistry Fixed := Builtin.functionRegistry
    let constants : ConstantRegistry Fixed :=
      Builtin.constantRegistry.insert (.ofValue "Rate" Numeric.zero true)
    let prepared : Bindings Fixed :=
      Scope.merge ⟨constants, .empty⟩ (Bindings.empty.insert "X" Numeric.one)
    (foldName "ΟΔΟΣ" = "οδος" ∧ foldName "οδος" = "οδος") ∧
      (functions.Reachable ∧ functions.contains "sin" = true) ∧
      (constants.Reachable ∧ constants.contains "rate" = true) ∧
      prepared.Reachable ∧ prepared.get? "rate" = some Numeric.zero ∧
        prepared.get? "x" = some Numeric.one := by
  intro functions constants prepared
  have hfunctions : functions.Reachable := .registerAll .empty Builtin.functions
  have hconstants : constants.Reachable :=
    .register "Rate" Numeric.zero true (.registerAll .empty Builtin.constants)
      (by with_unfolding_all rfl)
  have hprepared : prepared.Reachable :=
    @Bindings.Reachable.prepare _ ⟨constants, .empty⟩ _ _ hconstants
      (.insert "X" Numeric.one .empty) (by with_unfolding_all rfl)
  have hroad : foldName "ΟΔΟΣ" = "οδος" := by decide +kernel
  have hsin := NameMap.mem_entries_iff.2 (Builtin.get?_functionRegistry (T := Fixed) _ List.mem_cons_self)
  have hrate : ("rate", ConstantInfo.ofValue "Rate" Numeric.zero true) ∈ constants.infos.entries :=
    List.mem_of_getElem? (i := 2) (by with_unfolding_all rfl)
  have hentries : prepared.entries = [("x", Numeric.one), ("e", Numeric.e), ("pi", Numeric.pi),
      ("rate", Numeric.zero)] := by
    with_unfolding_all rfl
  obtain ⟨htwice, hfunction, hconstant, hbound⟩ := stored_names_folded (T := Fixed)
  have hget := (hbound prepared hprepared).1
  rw [hentries] at hget
  exact ⟨⟨hroad, hroad ▸ htwice "ΟΔΟΣ"⟩, ⟨hfunctions, (hfunction functions hfunctions _ _ hsin).2.2.2⟩,
    ⟨hconstants, (hconstant constants hconstants _ _ hrate).2.2.2⟩, hprepared,
    (hget "rate" Numeric.zero (by simp)).2.1, (hget "x" Numeric.one (by simp)).2.1⟩

end Formulary
