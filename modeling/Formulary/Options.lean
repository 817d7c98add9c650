import Formulary.Cache.Basic
import Formulary.Formula
import Formulary.Json
import Formulary.Locale
import Formulary.Text.Quoted

/-!
# Options — settings of an engine

An engine is made with a locale, a backend and settings for its cache and optimizer. Settings files
hold them as JSON objects in which every field may be missing and fields of other names are ignored;
a list of values in the order of the fields is understood too.
-/

namespace Formulary

open Text

/-! ## Locales -/

namespace Locale

/-- A separator that may be absent. -/
def separator? : Json → Option (Option Char)
  | .null => some none
  | value => value.char?.map some

/-- Reads the punctuation of a locale. -/
def ofJson? : Json → Option Locale
  | .object fields => do
    let decimal ← (← Json.field? fields "decimal_separator").char?
    let argument ← (← Json.field? fields "argument_separator").char?
    let grouping ← separator? ((Json.field? fields "thousands_separator").getD .null)
    pure ⟨decimal, argument, grouping⟩
  | .array [decimal, argument, grouping] => do
    pure ⟨← decimal.char?, ← argument.char?, ← separator? grouping⟩
  | _ => none

/-- The punctuation of a locale as an object. -/
def toJson (locale : Locale) : Json :=
  let character (c : Char) : Json := .string (String.ofList [c])
  .object
    [("decimal_separator", character locale.decimal),
     ("argument_separator", character locale.argument),
     ("thousands_separator", (locale.grouping.map character).getD .null)]

/-- The form shown for diagnosis. -/
def debug (locale : Locale) : String :=
  let character (c : Char) : String := String.ofList (quotedChar c)
  let grouping :=
    match locale.grouping with
    | some c => "Some(" ++ character c ++ ")"
    | none => "None"
  "NumberLocale \x7b decimal_separator: " ++ character locale.decimal ++
    ", argument_separator: " ++ character locale.argument ++
    ", thousands_separator: " ++ grouping ++ " \x7d"

end Locale

/-! ## Backends -/

namespace Backend

/-- The name of a backend in settings. -/
def settingName : Backend → String
  | interpreted => "interpreted"
  | compiled => "compiled"
  | bytecode => "bytecode"

/-- The backend of a name in settings. -/
def ofSettingName? (name : String) : Option Backend :=
  [interpreted, compiled, bytecode].find? (·.settingName = name)

/-- Reads a backend: its name, alone or as the only field of an object without a value. -/
def ofJson? : Json → Option Backend
  | .string name => ofSettingName? name
  | .object [(name, .null)] => ofSettingName? name
  | _ => none

/-- The form shown for diagnosis. -/
def debug : Backend → String
  | interpreted => "Interpreted"
  | compiled => "Compiled"
  | bytecode => "Bytecode"

end Backend

/-! ## Options -/

/-- Settings of an engine. -/
structure Options where
  locale : Locale
  backend : Backend
  cacheEnabled : Bool
  /-- How many formulas the cache may hold; no limit if absent. -/
  cacheCapacity : Option Capacity
  optimizerEnabled : Bool
deriving DecidableEq

namespace Options

/-- The settings of fields that are missing. -/
def default : Options :=
  ⟨.english, .compiled, true, some ⟨500, by decide⟩, true⟩

instance : Inhabited Options := ⟨default⟩

/-- Reads a limit: a whole number from one on that 64 bits hold, or none. -/
def capacity? : Json → Option (Option Capacity)
  | .null => some none
  | value => do
    let n ← value.integer?
    if n < 18446744073709551616 then (Capacity.ofNat? n.toNat).map some else none

/-- Reads a value that may be missing. -/
def orDefault {α : Type} (value : Option Json) (read : Json → Option α) (default : α) : Option α :=
  match value with
  | some value => read value
  | none => some default

/-- Reads settings from values that may be missing. -/
def ofValues? (locale backend cacheEnabled cacheCapacity optimizerEnabled : Option Json) :
    Option Options := do
  pure {
    locale := ← orDefault locale Locale.ofJson? default.locale
    backend := ← orDefault backend Backend.ofJson? default.backend
    cacheEnabled := ← orDefault cacheEnabled Json.bool? default.cacheEnabled
    cacheCapacity := ← orDefault cacheCapacity capacity? default.cacheCapacity
    optimizerEnabled := ← orDefault optimizerEnabled Json.bool? default.optimizerEnabled }

/-- Reads settings. -/
def ofJson? : Json → Option Options
  | .object fields =>
    ofValues? (Json.field? fields "locale") (Json.field? fields "execution_mode")
      (Json.field? fields "cache_enabled") (Json.field? fields "cache_capacity")
      (Json.field? fields "optimizer_enabled")
  | .array items =>
    if items.length ≤ 5 then ofValues? items[0]? items[1]? items[2]? items[3]? items[4]? else none
  | _ => none

/-- Settings as an object. -/
def toJson (options : Options) : Json :=
  .object
    [("locale", options.locale.toJson),
     ("execution_mode", .string options.backend.settingName),
     ("cache_enabled", .bool options.cacheEnabled),
     ("cache_capacity", (options.cacheCapacity.map fun n => Json.ofInt n.val).getD .null),
     ("optimizer_enabled", .bool options.optimizerEnabled)]

/-- The form shown for diagnosis. -/
def debug (options : Options) : String :=
  let capacity :=
    match options.cacheCapacity with
    | some n => "Some(" ++ toString n.val ++ ")"
    | none => "None"
  "EngineOptions \x7b locale: " ++ options.locale.debug ++
    ", execution_mode: " ++ options.backend.debug ++
    ", cache_enabled: " ++ toString options.cacheEnabled ++
    ", cache_capacity: " ++ capacity ++
    ", optimizer_enabled: " ++ toString options.optimizerEnabled ++ " \x7d"

end Options

end Formulary
