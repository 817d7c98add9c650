import Formulary.Function.Builtin

/-!
# Proofs/Function/Registration — what a registration is refused for, and what it leaves alone

A name is protected by an entry that is not overwritable. A registration is refused exactly if its name
is protected, so that it never replaces such an entry (`Keeps`). The built-in functions and constants
are registered one after another under names of their own, and all of them are there in the end.
-/

namespace Formulary

open Text

/-! ## Protected names -/

namespace NameMap

variable {α : Type} {overwritable : α → Bool} {m m' m'' : NameMap α} {name : String}

theorem find?_insert (m : NameMap α) (name : String) (value : α) (key : String) :
    (m.insert name value).find? key = if key = name then some value else m.find? key := by
  split
  · next hkey => rw [hkey, find?_insert_self]
  · next hkey => exact m.find?_insert_of_ne value hkey

/-- A name has an entry that is not overwritable. -/
def Protects (overwritable : α → Bool) (m : NameMap α) (name : String) : Prop :=
  ∃ old, m.find? name = some old ∧ overwritable old = false

theorem not_protects_of_none (h : m.find? name = none) : ¬m.Protects overwritable name := by
  rintro ⟨old, hold, -⟩
  rw [h] at hold
  cases hold

/-- Entries that are not overwritable stay. -/
def Keeps (overwritable : α → Bool) (m m' : NameMap α) : Prop :=
  ∀ name old, m.find? name = some old → overwritable old = false → m'.find? name = some old

theorem Keeps.refl (m : NameMap α) : m.Keeps overwritable m :=
  fun _ _ h _ => h

theorem Keeps.trans (h : m.Keeps overwritable m') (h' : m'.Keeps overwritable m'') :
    m.Keeps overwritable m'' :=
  fun name old hold hfixed => h' name old (h name old hold hfixed) hfixed

/-- An entry under a name that is not protected replaces none that is to stay. -/
theorem keeps_insert (h : ¬m.Protects overwritable name) (value : α) :
    m.Keeps overwritable (m.insert name value) := by
  intro key old hold hfixed
  have hkey : key ≠ name := fun heq => h ⟨old, heq ▸ hold, hfixed⟩
  rw [find?_insert_of_ne m value hkey, hold]

end NameMap

variable {T : Type}

/-! ## Functions -/

namespace FunctionRegistry

/-- Functions that are not overwritable stay. -/
def Keeps (registry registry' : FunctionRegistry T) : Prop :=
  registry.infos.Keeps FunctionInfo.overwritable registry'.infos

/-- A name has a function that is not overwritable. -/
def Protects (registry : FunctionRegistry T) (name : String) : Prop :=
  registry.infos.Protects FunctionInfo.overwritable name

variable {registry : FunctionRegistry T} {info : FunctionInfo T}

/-- **A function is refused if its name is protected**, and entered if not. -/
theorem register_of_protects (h : registry.Protects info.name) :
    registry.register info = .error (.duplicateFunction info.name) := by
  obtain ⟨old, hold, hfixed⟩ := h
  rw [register, hold]
  change (if old.overwritable = true then _ else _) = _
  rw [hfixed]
  rfl

theorem register_of_not_protects (h : ¬registry.Protects info.name) :
    registry.register info = .ok (registry.insert info) := by
  rw [register]
  split
  · next old hold =>
    cases hfixed : old.overwritable with
    | true => rfl
    | false => exact absurd ⟨old, hold, hfixed⟩ h
  · rfl

theorem get?_insert (registry : FunctionRegistry T) (info : FunctionInfo T) (name : String) :
    (registry.insert info).get? name =
      if foldName name = info.name then some info else registry.get? name :=
  registry.infos.find?_insert info.name info (foldName name)

theorem keeps_registerAll (registry : FunctionRegistry T) (entries : List (String × Callable T)) :
    registry.Keeps (registry.registerAll entries).1 := by
  induction entries generalizing registry with
  | nil => exact .refl _
  | cons entry rest ih =>
    obtain ⟨name, callable⟩ := entry
    rw [registerAll]
    by_cases h : registry.Protects (foldName name)
    · rw [register_of_protects h]
      exact .refl _
    · have hinsert : registry.Keeps (registry.insert (.ofCallable name callable false)) :=
        NameMap.keeps_insert h _
      rw [register_of_not_protects h]
      exact NameMap.Keeps.trans hinsert (ih _)

/-- **Functions under different new names are all entered.** -/
theorem get?_registerAll {entries : List (String × Callable T)}
    (hnodup : (entries.map (foldName ·.1)).Nodup) (hnew : ∀ p ∈ entries, registry.get? p.1 = none) :
    ∀ p ∈ entries,
      (registry.registerAll entries).1.get? p.1 = some (.ofCallable p.1 p.2 false) := by
  induction entries generalizing registry with
  | nil => exact nofun
  | cons entry rest ih =>
    obtain ⟨name, callable⟩ := entry
    obtain ⟨hfirst, hrest⟩ := List.nodup_cons.1 hnodup
    obtain ⟨hname, hnew⟩ := List.forall_mem_cons.1 hnew
    have hfree : ¬registry.Protects (foldName name) := NameMap.not_protects_of_none hname
    rw [registerAll, register_of_not_protects hfree]
    refine List.forall_mem_cons.2 ⟨?_, ih hrest fun p hp => ?_⟩
    · have hself : (registry.insert (.ofCallable name callable false)).get? name =
          some (.ofCallable name callable false) := by
        rw [get?_insert]
        exact if_pos rfl
      exact keeps_registerAll _ rest _ _ hself rfl
    · rw [get?_insert, if_neg, hnew p hp]
      exact fun heq => hfirst (List.mem_map.2 ⟨p, hp, heq⟩)

end FunctionRegistry

/-! ## Constants -/

namespace ConstantRegistry

/-- Constants that are not overwritable stay. -/
def Keeps (registry registry' : ConstantRegistry T) : Prop :=
  registry.infos.Keeps ConstantInfo.overwritable registry'.infos

/-- A name has a constant that is not overwritable. -/
def Protects (registry : ConstantRegistry T) (name : String) : Prop :=
  registry.infos.Protects ConstantInfo.overwritable name

variable {registry : ConstantRegistry T} {info : ConstantInfo T}

/-- **A constant is refused if its name is protected**, and entered if not. -/
theorem register_of_protects (h : registry.Protects info.name) :
    registry.register info = .error (.duplicateConstant info.name) := by
  obtain ⟨old, hold, hfixed⟩ := h
  rw [register, hold]
  change (if old.overwritable = true then _ else _) = _
  rw [hfixed]
  rfl

theorem register_of_not_protects (h : ¬registry.Protects info.name) :
    registry.register info = .ok (registry.insert info) := by
  rw [register]
  split
  · next old hold =>
    cases hfixed : old.overwritable with
    | true => rfl
    | false => exact absurd ⟨old, hold, hfixed⟩ h
  · rfl

theorem get?_insert (registry : ConstantRegistry T) (info : ConstantInfo T) (name : String) :
    (registry.insert info).get? name =
      if foldName name = info.name then some info else registry.get? name :=
  registry.infos.find?_insert info.name info (foldName name)

end ConstantRegistry

/-! ## What every formula knows -/

namespace Builtin

variable [Numeric T]

/-- **Every built-in function is there** under its name. -/
theorem get?_functionRegistry : ∀ p ∈ (functions : List (String × Callable T)),
    functionRegistry.get? p.1 = some (.ofCallable p.1 p.2 false) := by
  refine FunctionRegistry.get?_registerAll ?_ fun _ _ => rfl
  have hnames : (functions : List (String × Callable T)).map (foldName ·.1) =
      ["sin", "cos", "tan", "csc", "sec", "cot", "asin", "acos", "atan", "acot", "loge", "log10",
        "sqrt", "logn", "abs", "ceiling", "floor", "truncate", "max", "min", "if", "ifless", "ifmore",
        "ifequal"].map foldName :=
    rfl
  rw [hnames]
  decide

/-- **Every built-in constant is there** under its name. -/
theorem get?_constantRegistry : ∀ p ∈ (constants : List (String × T)),
    constantRegistry.get? p.1 = some (.ofValue p.1 p.2 false) := by
  have he : constantRegistry.get? "e" = some (.ofValue "e" (Numeric.e : T) false) := by
    with_unfolding_all rfl
  have hpi : constantRegistry.get? "pi" = some (.ofValue "pi" (Numeric.pi : T) false) := by
    with_unfolding_all rfl
  exact List.forall_mem_cons.2 ⟨he, List.forall_mem_cons.2 ⟨hpi, nofun⟩⟩

end Builtin

end Formulary
