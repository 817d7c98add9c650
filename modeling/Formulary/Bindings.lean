import Formulary.Error
import Formulary.NameMap
import Formulary.Number.Basic
import Formulary.Text.Fold

/-!
# Bindings — the values of variables

`Bindings` give variables their values for one evaluation. Names are folded on the way in and on
look-up, so that all spellings of a name are one variable. `ofVariables?` takes a caller's variables
and refuses two names that fold alike; `ofList` lets the later one win.
-/

namespace Formulary

open Text

/-- The values of variables, by folded name. -/
structure Bindings (T : Type) where
  values : NameMap T

namespace Bindings

variable {T : Type}

/-- No variable has a value. -/
def empty : Bindings T := ⟨.empty⟩

instance : EmptyCollection (Bindings T) := ⟨empty⟩

/-- The value of a variable whose name is folded. -/
def getFolded? (b : Bindings T) (folded : String) : Option T :=
  b.values.find? folded

/-- The value of a variable. -/
def get? (b : Bindings T) (name : String) : Option T :=
  b.getFolded? (foldName name)

/-- Whether a variable has a value. -/
def contains (b : Bindings T) (name : String) : Bool :=
  b.values.contains (foldName name)

/-- Gives a variable whose name is folded a value. -/
def insertFolded (b : Bindings T) (folded : String) (value : T) : Bindings T :=
  ⟨b.values.insert folded value⟩

/-- Gives a variable a value. -/
def insert (b : Bindings T) (name : String) (value : T) : Bindings T :=
  b.insertFolded (foldName name) value

/-- How many variables have a value. -/
def size (b : Bindings T) : Nat :=
  b.values.size

/-- The variables and their values. -/
def entries (b : Bindings T) : List (String × T) :=
  b.values.entries

/-- Bindings from names and values; of two for one variable the later wins. -/
def ofList (vars : List (String × T)) : Bindings T :=
  vars.foldl (fun b p => b.insert p.1 p.2) empty

/-- Adds variables one by one; a second value for one variable is an error. -/
def addDistinct (b : Bindings T) : List (String × T) → Except FormulaError (Bindings T)
  | [] => .ok b
  | (name, value) :: rest =>
    if b.contains name then .error (.duplicateVariable (foldName name))
    else addDistinct (b.insert name value) rest

/-- Bindings from a caller's variables, whose names are distinct as written. -/
def ofVariables? (vars : NameMap T) : Except FormulaError (Bindings T) :=
  addDistinct empty vars.entries

/-- Whether two bindings give the same variables equal values. -/
def same [Numeric T] (a b : Bindings T) : Bool :=
  a.size == b.size && a.entries.all fun p =>
    match b.getFolded? p.1 with
    | some value => Numeric.eq p.2 value
    | none => false

@[simp] theorem getFolded?_insertFolded_self (b : Bindings T) (folded : String) (value : T) :
    (b.insertFolded folded value).getFolded? folded = some value :=
  NameMap.find?_insert_self ..

theorem getFolded?_insertFolded_of_ne (b : Bindings T) {folded key : String} (value : T)
    (h : key ≠ folded) : (b.insertFolded folded value).getFolded? key = b.getFolded? key :=
  NameMap.find?_insert_of_ne _ value h

/-- A variable has its value under every spelling that folds alike. -/
theorem get?_insert_self (b : Bindings T) {name other : String} (value : T)
    (h : foldName other = foldName name) : (b.insert name value).get? other = some value := by
  rw [get?, h, insert, getFolded?_insertFolded_self]

end Bindings

end Formulary
