import Formulary.Proofs.Parser.Completeness
import Formulary.Proofs.Parser.Soundness

/-!
# Proofs/Parser/Acceptance — the parser accepts its grammar

The parser compares strengths and knows no grammar. Under every locale of the library it accepts a text
with an expression exactly if the grammar derives that expression from the whole text, up to the limit
on how deep expressions nest.
-/

namespace Formulary.Parser

variable {T : Type} [Numeric T]

/-- What a formula is read against. -/
def formulaContext (locale : Locale) (functions : FunctionRegistry T) (constants : ConstantRegistry T)
    (text : String) : Context T :=
  ⟨locale, functions, constants, true, byteSize text.toList⟩

/-- **The parser accepts exactly its grammar.** An accepted expression is derived from the whole text.
An expression that is derived, and whose calls resolve, is accepted or refused as too deep; then it has
too many levels, or is not derived without nesting too deep. So what is accepted is what is derived
within the limit, with functions for its calls and no more levels than the limit. -/
theorem parse_accepts_grammar [SignReadable T] {locale : Locale} (hlocale : locale ∈ Locale.presets)
    (functions : FunctionRegistry T) (constants : ConstantRegistry T) (text : String) :
    let ctx := formulaContext locale functions constants text
    (∀ t : Expr T, parse locale functions constants text = .ok t → Denotes ctx text.toList t) ∧
    (∀ t : Expr T, Denotes ctx text.toList t → t.validate functions = .ok () →
      parse locale functions constants text = .ok t ∨
        parse locale functions constants text = .error (.tooDeep maxDepth) ∧
          (maxDepth < t.height ∨ ∀ n, DenotesWithin ctx n text.toList t → maxDepth < n)) ∧
    ∀ t : Expr T, parse locale functions constants text = .ok t ↔
      DenotesWithin ctx maxDepth text.toList t ∧ t.validate functions = .ok () ∧
        t.height ≤ maxDepth := by
  intro ctx
  have hdistinct : ctx.locale.Distinct := Locale.distinct_of_mem_presets hlocale
  have hwithin : ∀ {t n}, DenotesWithin ctx n text.toList t → t.validate functions = .ok () →
      UnlessDeep (maxDepth < n ∨ maxDepth < t.height) (parse locale functions constants text)
        (.ok t) := by
    rintro t n ⟨ts, hlexes, hderives⟩ hvalid
    exact whole_of_derives hdistinct hderives (signable_of_lexes hdistinct hlexes) hvalid hlexes
  refine ⟨fun t ht => (sound_whole ht).1, fun t hdenotes hvalid => ?_, fun t => ⟨?_, ?_⟩⟩
  · obtain ⟨n, hdenotes⟩ := hdenotes
    rcases hwithin hdenotes hvalid with hok | ⟨hdeep, -⟩
    · exact .inl hok
    · refine .inr ⟨hdeep, or_iff_not_imp_left.2 fun hheight m hm => ?_⟩
      rcases hwithin hm hvalid with hok | ⟨-, hreason⟩
      · rw [hdeep] at hok
        cases hok
      · exact hreason.resolve_right hheight
  · exact derives_of_whole
  · rintro ⟨hdenotes, hvalid, hheight⟩
    rcases hwithin hdenotes hvalid with hok | ⟨-, hreason⟩
    · exact hok
    · omega

/-- A power binds tighter than a sign. -/
theorem parse_accepts_grammar_power :
    let t : Expr Fixed := .neg (.binary .power (.int 2) (.int 2))
    let ctx := formulaContext .english ∅ ∅ "-2 ^ 2"
    Locale.english ∈ Locale.presets ∧ Denotes ctx "-2 ^ 2".toList t ∧
      DenotesWithin ctx maxDepth "-2 ^ 2".toList t ∧ parse .english ∅ ∅ "-2 ^ 2" = .ok t := by
  intro t ctx
  have hpreset : Locale.english ∈ Locale.presets := by decide
  obtain ⟨hsound, hcomplete, hexact⟩ := parse_accepts_grammar (T := Fixed) hpreset ∅ ∅ "-2 ^ 2"
  have hparse : parse .english ∅ ∅ "-2 ^ 2" = .ok t := by cbv
  have hwithin : DenotesWithin ctx maxDepth "-2 ^ 2".toList t := ((hexact t).1 hparse).1
  refine ⟨hpreset, hsound t hparse, hwithin, ?_⟩
  rcases hcomplete t (hsound t hparse) rfl with hok | ⟨-, hheight | hnested⟩
  · exact hok
  · exact absurd hheight (by decide)
  · exact absurd (hnested _ hwithin) (Nat.lt_irrefl _)

end Formulary.Parser
