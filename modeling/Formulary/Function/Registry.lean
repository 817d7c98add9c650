import Formulary.Function.Callable
import Formulary.NameMap
import Formulary.Text.Digits
import Formulary.Text.Fold

/-!
# Function/Registry — functions and constants by name

The registries that a formula is built against. Names are folded, so that every spelling of a name is
one function or constant, and every entry stands under its own name. An entry is replaced by a later
one for its name only if it is overwritable itself; otherwise the registration fails and the registry
stays as it was.
-/

namespace Formulary

open Text

/-- How many arguments a function accepts. -/
inductive Arity where
  | fixed (count : Nat)
  | variadic
deriving DecidableEq, Repr

namespace Arity

/-- Whether a call with this many arguments is acceptable. -/
def accepts : Arity → Nat → Bool
  | fixed n, count => n == count
  | variadic, _ => true

/-- The number of arguments that a message about a call with `count` of them names. -/
def expected : Arity → Nat → Nat
  | fixed n, _ => n
  | variadic, count => count

/-- The arity that a body has by itself. -/
def ofCallable {T : Type} (callable : Callable T) : Arity :=
  match callable.count? with
  | some count => fixed count
  | none => variadic

/-- The short form shown to people. -/
def display : Arity → String
  | fixed n => String.ofList (decimal n)
  | variadic => "variadic"

end Arity

/-- A registered function. -/
structure FunctionInfo (T : Type) where
  /-- The folded name. -/
  name : String
  arity : Arity
  callable : Callable T
  overwritable : Bool
  /-- A body that takes its arguments by position has just that arity. -/
  arity_eq : ∀ count, callable.count? = some count → arity = .fixed count

namespace FunctionInfo

variable {T : Type}

/-- A body under a name, with the arity it has by itself. -/
def ofCallable (name : String) (callable : Callable T) (overwritable : Bool) : FunctionInfo T :=
  ⟨foldName name, .ofCallable callable, callable, overwritable, fun count h => by
    simp [Arity.ofCallable, h]⟩

/-- A body that takes a list, under a name and with an arity of choice. -/
def ofSlice (name : String) (arity : Arity) (label : String)
    (body : List T → Except FormulaError T) (overwritable : Bool) : FunctionInfo T :=
  ⟨foldName name, arity, .slice label body, overwritable, nofun⟩

/-- Refuses a call with the wrong number of arguments. -/
def checkArity (info : FunctionInfo T) (count : Nat) : Except FormulaError Unit :=
  if info.arity.accepts count then .ok ()
  else .error (.arityMismatch info.name (info.arity.expected count) count)

/-- Calls the function. -/
def invoke (info : FunctionInfo T) (arguments : List T) : Eval T T :=
  info.callable.invoke info.name arguments

end FunctionInfo

/-- Functions by folded name. -/
structure FunctionRegistry (T : Type) where
  infos : NameMap (FunctionInfo T)
  /-- A function stands under its own name. -/
  name_eq : ∀ key info, infos.find? key = some info → info.name = key

namespace FunctionRegistry

variable {T : Type}

/-- No function has a name. -/
def empty : FunctionRegistry T := ⟨.empty, nofun⟩

instance : EmptyCollection (FunctionRegistry T) := ⟨empty⟩

/-- The function of a name. -/
def get? (registry : FunctionRegistry T) (name : String) : Option (FunctionInfo T) :=
  registry.infos.find? (foldName name)

/-- Whether a name has a function. -/
def contains (registry : FunctionRegistry T) (name : String) : Bool :=
  registry.infos.contains (foldName name)

/-- How many functions there are. -/
def size (registry : FunctionRegistry T) : Nat :=
  registry.infos.size

/-- The function of a name, or an error. -/
def lookup (registry : FunctionRegistry T) (name : String) :
    Except FormulaError (FunctionInfo T) :=
  match registry.get? name with
  | some info => .ok info
  | none => .error (.unknownFunction name)

/-- The function that a call with this many arguments means. -/
def resolve (registry : FunctionRegistry T) (name : String) (count : Nat) :
    Except FormulaError (FunctionInfo T) := do
  let info ← registry.lookup name
  info.checkArity count
  pure info

/-- The registry with a function under its name. -/
def insert (registry : FunctionRegistry T) (info : FunctionInfo T) : FunctionRegistry T where
  infos := registry.infos.insert info.name info
  name_eq := fun key _ h =>
    (NameMap.find?_insert_eq_some h).elim (fun ⟨hkey, hinfo⟩ => hinfo ▸ hkey.symm)
      (registry.name_eq key _)

/-- Registers a function, unless its name belongs to one that is not overwritable. -/
def register (registry : FunctionRegistry T) (info : FunctionInfo T) :
    Except FormulaError (FunctionRegistry T) :=
  match registry.infos.find? info.name with
  | some old =>
    if old.overwritable then .ok (registry.insert info)
    else .error (.duplicateFunction info.name)
  | none => .ok (registry.insert info)

/-- Registers bodies that are not overwritable, up to the first that is refused. -/
def registerAll (registry : FunctionRegistry T) :
    List (String × Callable T) → FunctionRegistry T × Except FormulaError Unit
  | [] => (registry, .ok ())
  | (name, callable) :: rest =>
    match registry.register (.ofCallable name callable false) with
    | .ok registry => registry.registerAll rest
    | .error error => (registry, .error error)

end FunctionRegistry

/-- A registered constant. -/
structure ConstantInfo (T : Type) where
  /-- The folded name. -/
  name : String
  value : T
  overwritable : Bool

/-- A value under a name. -/
def ConstantInfo.ofValue {T : Type} (name : String) (value : T) (overwritable : Bool) :
    ConstantInfo T :=
  ⟨foldName name, value, overwritable⟩

/-- Constants by folded name. -/
structure ConstantRegistry (T : Type) where
  infos : NameMap (ConstantInfo T)
  /-- A constant stands under its own name. -/
  name_eq : ∀ key info, infos.find? key = some info → info.name = key

namespace ConstantRegistry

variable {T : Type}

/-- No constant has a name. -/
def empty : ConstantRegistry T := ⟨.empty, nofun⟩

instance : EmptyCollection (ConstantRegistry T) := ⟨empty⟩

/-- The constant of a name. -/
def get? (registry : ConstantRegistry T) (name : String) : Option (ConstantInfo T) :=
  registry.infos.find? (foldName name)

/-- Whether a name has a constant. -/
def contains (registry : ConstantRegistry T) (name : String) : Bool :=
  registry.infos.contains (foldName name)

/-- How many constants there are. -/
def size (registry : ConstantRegistry T) : Nat :=
  registry.infos.size

/-- The constant of a name, or an error. -/
def lookup (registry : ConstantRegistry T) (name : String) :
    Except FormulaError (ConstantInfo T) :=
  match registry.get? name with
  | some info => .ok info
  | none => .error (.unknownConstant name)

/-- The constant of a name, if it cannot be overwritten: a formula can rely on its value. -/
def protected? (registry : ConstantRegistry T) (name : String) : Option (ConstantInfo T) :=
  (registry.get? name).filter (!·.overwritable)

/-- The registry with a constant under its name. -/
def insert (registry : ConstantRegistry T) (info : ConstantInfo T) : ConstantRegistry T where
  infos := registry.infos.insert info.name info
  name_eq := fun key _ h =>
    (NameMap.find?_insert_eq_some h).elim (fun ⟨hkey, hinfo⟩ => hinfo ▸ hkey.symm)
      (registry.name_eq key _)

/-- Registers a constant, unless its name belongs to one that is not overwritable. -/
def register (registry : ConstantRegistry T) (info : ConstantInfo T) :
    Except FormulaError (ConstantRegistry T) :=
  match registry.infos.find? info.name with
  | some old =>
    if old.overwritable then .ok (registry.insert info)
    else .error (.duplicateConstant info.name)
  | none => .ok (registry.insert info)

/-- Registers constants that are not overwritable, up to the first that is refused. -/
def registerAll (registry : ConstantRegistry T) :
    List (String × T) → ConstantRegistry T × Except FormulaError Unit
  | [] => (registry, .ok ())
  | (name, value) :: rest =>
    match registry.register (.ofValue name value false) with
    | .ok registry => registry.registerAll rest
    | .error error => (registry, .error error)

end ConstantRegistry

end Formulary
