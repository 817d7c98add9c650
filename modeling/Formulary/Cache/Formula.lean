import Formulary.Cache.Basic
import Formulary.Expr.Text
import Formulary.Formula

/-!
# Cache/Formula — built formulas by their text or tree

Formula texts and expressions are keys of two kinds, so that a text never stands for an expression
that is displayed like it.
-/

namespace Formulary

/-- What identifies a formula in a cache. -/
inductive FormulaKey where
  /-- A formula text exactly as written. -/
  | source (text : String)
  /-- The key of an expression. -/
  | tree (key : String)
deriving DecidableEq, Repr

namespace FormulaKey

/-- The key of an expression. -/
def ofExpr {T : Type} [Numeric T] (e : Expr T) : FormulaKey :=
  .tree e.key

/-- The form shown to people. -/
def display : FormulaKey → String
  | source text => s!"source `{text}`"
  | tree key => s!"tree `{key}`"

end FormulaKey

/-- A cache of built formulas. -/
abbrev FormulaCache (T : Type) : Type :=
  Cache FormulaKey (Formula T)

/-- The form of the counters shown for diagnosis. -/
def CacheStats.debug (stats : CacheStats) : String :=
  s!"CacheStats \x7b hits: {stats.hits}, misses: {stats.misses}, " ++
    s!"evictions: {stats.evictions}, entries: {stats.entries} \x7d"

/-- The form of a cache shown for diagnosis. -/
def FormulaCache.debug {T : Type} (cache : FormulaCache T) : String :=
  s!"FormulaCache \x7b stats: {cache.stats.debug} \x7d"

end Formulary
