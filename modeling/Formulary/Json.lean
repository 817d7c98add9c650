/-!
# Json — structured data read from and written to settings files

The values of the JSON format. A number keeps how many decimal places it was written with, because a
whole number and a number with places are told apart: `integer?` accepts the former only.
-/

namespace Formulary

/-- A value of the JSON format. -/
inductive Json where
  | null
  | bool (value : Bool)
  /-- The number `digits · 10 ^ -places`, written with that many decimal places. -/
  | number (digits : Int) (places : Nat)
  | string (text : String)
  | array (items : List Json)
  | object (fields : List (String × Json))
deriving Inhabited

namespace Json

/-- A whole number as a value. -/
def ofInt (i : Int) : Json :=
  .number i 0

/-- The whole number that a value is. -/
def integer? : Json → Option Int
  | .number digits 0 => some digits
  | _ => none

/-- The truth value that a value is. -/
def bool? : Json → Option Bool
  | .bool b => some b
  | _ => none

/-- The single character that a text consists of. -/
def char? : Json → Option Char
  | .string text =>
    match text.toList with
    | [c] => some c
    | _ => none
  | _ => none

/-- The value of a field. -/
def field? (fields : List (String × Json)) (name : String) : Option Json :=
  fields.lookup name

end Json

end Formulary
