import Formulary.Text.Hex
import Formulary.Text.Visible

/-!
# Text/Quoted — texts between quotes

A quoted text stands between quotes. A backslash and the quote itself are written after a backslash,
the usual control characters as `\t`, `\r`, `\n` and `\0`, and every other character that is not
visible as `\u{…}` with its code point in hexadecimal.
-/

namespace Formulary.Text

/-- What stands for one character between quotes. -/
def escape (quote c : Char) : List Char :=
  if c = '\x00' then ['\\', '0']
  else if c = '\t' then ['\\', 't']
  else if c = '\r' then ['\\', 'r']
  else if c = '\n' then ['\\', 'n']
  else if c = '\\' ∨ c = quote then ['\\', c]
  else if isVisible c then [c]
  else ['\\', 'u', '{'] ++ hexDigits c.toNat ++ ['}']

/-- The characters between the quotes. -/
def escapeAll (quote : Char) (cs : List Char) : List Char :=
  cs.flatMap (escape quote)

/-- A text between double quotes. -/
def quoted (cs : List Char) : List Char :=
  '"' :: escapeAll '"' cs ++ ['"']

/-- A character between single quotes. -/
def quotedChar (c : Char) : List Char :=
  '\'' :: escape '\'' c ++ ['\'']

end Formulary.Text
