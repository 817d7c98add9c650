import Formulary.Text.CodePoint

/-!
# Text/Blank — blank characters and trimming

Blank characters may stand between any two tokens of a formula and around a number. They are the
characters with the `White_Space` property: `isBlank_of_isWhitespace` says that these include the
ASCII ones. `dropBlanks` removes them from the front of a text, `trim` from both ends.
-/

namespace Formulary.Text

/-- The characters with the `White_Space` property. -/
def blanks : CharSet :=
  [⟨0x9, 0xD, 1⟩, ⟨0x20, 0x20, 1⟩, ⟨0x85, 0x85, 1⟩, ⟨0xA0, 0xA0, 1⟩, ⟨0x1680, 0x1680, 1⟩,
   ⟨0x2000, 0x200A, 1⟩, ⟨0x2028, 0x2029, 1⟩, ⟨0x202F, 0x202F, 1⟩, ⟨0x205F, 0x205F, 1⟩,
   ⟨0x3000, 0x3000, 1⟩]

/-- Whether a character is blank. -/
def isBlank (c : Char) : Bool :=
  blanks.has c

theorem isBlank_of_isWhitespace {c : Char} (h : c.isWhitespace = true) : isBlank c = true := by
  simp only [Char.isWhitespace, Bool.or_eq_true, decide_eq_true_eq] at h
  rcases h with ((rfl | rfl) | rfl) | rfl <;> rfl

/-- The text without the blanks in front of it. -/
def dropBlanks (cs : List Char) : List Char :=
  cs.dropWhile isBlank

theorem length_dropBlanks_le (cs : List Char) : (dropBlanks cs).length ≤ cs.length :=
  (List.dropWhile_sublist isBlank).length_le

/-- The text without the blanks at its end. -/
def dropBlanksRight (cs : List Char) : List Char :=
  (dropBlanks cs.reverse).reverse

/-- The text without the blanks at either end. -/
def trim (cs : List Char) : List Char :=
  dropBlanksRight (dropBlanks cs)

end Formulary.Text
