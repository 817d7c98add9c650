import Formulary.Text.LetterCase

/-!
# Text/Fold — names compared without regard to letter case

Names of variables, functions and constants are looked up by their folded form. `fold` writes a text
in small letters, but only when it holds a capital letter: a text without one is its own folded form
(`fold_of_not_any_isUpper`). A capital sigma becomes `ς` at the end of a word and `σ` elsewhere.
-/

namespace Formulary.Text

/-- Whether the first character that is not case-ignorable has case. -/
def meetsCased (cs : List Char) : Bool :=
  match cs.dropWhile isCaseIgnorable with
  | [] => false
  | c :: _ => isCased c

/-- Whether a sigma between these two texts (the one before it read backwards) ends a word. -/
def endsWord (before after : List Char) : Bool :=
  meetsCased before && !meetsCased after

/-- The small form of a text that follows `before` (read backwards). -/
def lowerAfter (before : List Char) : List Char → List Char
  | [] => []
  | c :: rest =>
    let small :=
      if c = 'Σ' then if endsWord before rest then ['ς'] else ['σ']
      else lowerChar c
    small ++ lowerAfter (c :: before) rest

/-- The text in small letters. -/
def lower (cs : List Char) : List Char :=
  lowerAfter [] cs

/-- The folded form of a text: small letters if it holds a capital one. -/
def fold (cs : List Char) : List Char :=
  if cs.any isUpper then lower cs else cs

theorem fold_of_not_any_isUpper {cs : List Char} (h : cs.any isUpper = false) : fold cs = cs := by
  simp [fold, h]

/-- The folded form of a name. -/
def foldName (name : String) : String :=
  String.ofList (fold name.toList)

@[simp] theorem toList_foldName (name : String) : (foldName name).toList = fold name.toList := by
  simp [foldName]

end Formulary.Text
