import Formulary.Expr.Text
import Formulary.Proofs.Number.Printed

/-!
# Proofs/Expr/Key — the key of an expression identifies it

A key is one flat text, and names in it are arbitrary. It is decoded from the left: the first
character tells the kind of an expression, and every part of a key ends at a seam. The one choice that
the first character leaves open is `(-5`, which starts a negated `5` and an operation on `-5` alike;
what follows the digits decides it.
-/

namespace Formulary.Expr

open Text

variable {T : Type}

/-! ## The kinds of expressions -/

/-- What the first character of a key tells about an expression. -/
inductive Lead where
  | number
  | constant
  | name
  | group
deriving DecidableEq, Repr

/-- The kind of an expression that its key shows first. -/
def lead : Expr T → Lead
  | int _ => .number
  | const _ => .constant
  | var _ | call _ _ => .name
  | binary _ _ _ | compare _ _ _ | neg _ => .group

/-! ## Operators -/

/-- An operator that stands between two operands. -/
inductive Infix where
  | binary (op : BinaryOp)
  | compare (op : CompareOp)

/-- How an operator is written. -/
def Infix.symbol : Infix → List Char
  | binary op => op.symbol
  | compare op => op.symbol

/-- An operator with its operands. -/
def Infix.join : Infix → Expr T → Expr T → Expr T
  | binary op => Expr.binary op
  | compare op => Expr.compare op

theorem Infix.symbol_injective {op op' : Infix} (h : op.symbol = op'.symbol) : op = op' := by
  rcases op with op | op <;> rcases op' with op' | op' <;> cases op <;> cases op' <;>
    first | rfl | exact absurd h (by decide)

/-- An operator ends at the blank behind it. -/
theorem Infix.symbol_append_inj {op op' : Infix} {r s : List Char}
    (h : op.symbol ++ ' ' :: r = op'.symbol ++ ' ' :: s) : op = op' ∧ r = s := by
  have hsymbol : ∀ op : Infix, op.symbol.all (· != ' ') = true := by
    rintro (op | op) <;> cases op <;> rfl
  have hblank : ∀ cs, StopsAt (· != ' ') (' ' :: cs) := by
    intro cs c hc
    cases hc
    rfl
  obtain ⟨hop, hrs⟩ :=
    append_inj_of_stopsAt (List.all_eq_true.1 (hsymbol op)) (List.all_eq_true.1 (hsymbol op'))
      (hblank r) (hblank s) h
  exact ⟨Infix.symbol_injective hop, List.tail_eq_of_cons_eq hrs⟩

theorem eq_int_of_lead {e : Expr T} (h : e.lead = .number) : ∃ i, e = int i := by
  cases e with
  | int i => exact ⟨i, rfl⟩
  | _ => cases h

theorem eq_const_of_lead {e : Expr T} (h : e.lead = .constant) : ∃ x, e = const x := by
  cases e with
  | const x => exact ⟨x, rfl⟩
  | _ => cases h

theorem eq_of_lead_name {e : Expr T} (h : e.lead = .name) :
    (∃ name, e = var name) ∨ ∃ name arguments, e = call name arguments := by
  cases e with
  | var name => exact .inl ⟨name, rfl⟩
  | call name arguments => exact .inr ⟨name, arguments, rfl⟩
  | _ => cases h

theorem eq_of_lead_group {e : Expr T} (h : e.lead = .group) :
    (∃ op : Infix, ∃ left right, e = op.join left right) ∨ ∃ operand, e = neg operand := by
  cases e with
  | binary op left right => exact .inl ⟨.binary op, left, right, rfl⟩
  | compare op left right => exact .inl ⟨.compare op, left, right, rfl⟩
  | neg operand => exact .inr ⟨operand, rfl⟩
  | _ => cases h

/-! ## Equations -/

variable [Numeric T]

section Equations

variable (r : List Char)

theorem writeKey_int (i : Int32) : writeKey r (int i : Expr T) = signedDecimal i.toInt ++ r := rfl

theorem writeKey_const (x : T) : writeKey r (const x) = '#' :: (Numeric.debug x ++ r) := rfl

theorem writeKey_var (name : String) : writeKey r (var name : Expr T) = quoted name.toList ++ r := rfl

theorem writeKey_join (op : Infix) (left right : Expr T) :
    writeKey r (op.join left right) =
      '(' :: writeKey (' ' :: (op.symbol ++ ' ' :: writeKey (')' :: r) right)) left := by
  cases op <;> rfl

theorem writeKey_neg (operand : Expr T) :
    writeKey r (neg operand) = '(' :: '-' :: writeKey (')' :: r) operand := rfl

theorem writeKey_call (name : String) (arguments : List (Expr T)) :
    writeKey r (call name arguments) = quoted name.toList ++ '(' :: writeKeys (')' :: r) arguments :=
  rfl

theorem writeKeys_nil : writeKeys r ([] : List (Expr T)) = r := rfl

end Equations

/-! ## The first character -/

/-- The kind that a first character shows. -/
def Lead.ofChar? (c : Char) : Option Lead :=
  if c = '#' then some .constant
  else if c = '"' then some .name
  else if c = '(' then some .group
  else if c = '-' ∨ c.isDigit then some .number
  else none

theorem Lead.ofChar_of_isDigit {c : Char} (h : c.isDigit = true) :
    ofChar? c = some .number := by
  have hne : ∀ d : Char, d.isDigit = false → c ≠ d := by
    rintro d hd rfl
    rw [h] at hd
    exact absurd hd (by decide)
  rw [ofChar?, if_neg (hne _ rfl), if_neg (hne _ rfl), if_neg (hne _ rfl), if_pos (.inr h)]

theorem Lead.ofChar_signedDecimal (i : Int) (r : List Char) :
    ∃ c cs, signedDecimal i ++ r = c :: cs ∧ ofChar? c = some .number := by
  unfold signedDecimal
  split
  · exact ⟨'-', _, rfl, rfl⟩
  · obtain ⟨c, cs, hc, hdigit⟩ := decimal_eq_cons i.natAbs
    exact ⟨c, cs ++ r, by rw [hc, List.cons_append], ofChar_of_isDigit hdigit⟩

/-- **The first character of a key shows the kind of its expression.** -/
theorem writeKey_eq_cons (r : List Char) (e : Expr T) :
    ∃ c cs, writeKey r e = c :: cs ∧ Lead.ofChar? c = some e.lead := by
  cases e with
  | int i => exact Lead.ofChar_signedDecimal _ _
  | const x => exact ⟨'#', _, writeKey_const r x, rfl⟩
  | var name => exact ⟨'"', _, by rw [writeKey_var, quoted_append], rfl⟩
  | binary op left right => exact ⟨'(', _, writeKey_join r (.binary op) left right, rfl⟩
  | neg operand => exact ⟨'(', _, writeKey_neg r operand, rfl⟩
  | compare op left right => exact ⟨'(', _, writeKey_join r (.compare op) left right, rfl⟩
  | call name arguments => exact ⟨'"', _, by rw [writeKey_call, quoted_append], rfl⟩

theorem lead_of_writeKey_eq_cons {r cs : List Char} {e : Expr T} {c : Char}
    (h : writeKey r e = c :: cs) : Lead.ofChar? c = some e.lead := by
  obtain ⟨d, ds, hd, hlead⟩ := writeKey_eq_cons r e
  rw [h, List.cons.injEq] at hd
  rw [hd.1, hlead]

theorem lead_eq_of_writeKey_eq {r s : List Char} {e f : Expr T}
    (h : writeKey r e = writeKey s f) : e.lead = f.lead := by
  obtain ⟨c, cs, hc, hlead⟩ := writeKey_eq_cons r e
  have hf := lead_of_writeKey_eq_cons (h.symm.trans hc)
  exact Option.some.inj (hlead.symm.trans hf)

/-! ## Decoding -/

/-- A key in front of a seam determines its expression and where it ends. -/
def Decodable (e : Expr T) : Prop :=
  ∀ (f : Expr T) (r s : List Char), AtSeam r → AtSeam s → writeKey r e = writeKey s f →
    e = f ∧ r = s

theorem decodable_int (i : Int32) : Decodable (int i : Expr T) := by
  intro f r s hr hs h
  obtain ⟨j, rfl⟩ := eq_int_of_lead (lead_eq_of_writeKey_eq h).symm
  rw [writeKey_int, writeKey_int] at h
  obtain ⟨hij, hrs⟩ := signedDecimal_append_inj hr.stopsAt_isDigit hs.stopsAt_isDigit h
  rw [Int32.toInt_inj] at hij
  exact ⟨by rw [hij], hrs⟩

theorem decodable_const [Legible T] (x : T) : Decodable (const x) := by
  intro f r s hr hs h
  obtain ⟨y, rfl⟩ := eq_const_of_lead (lead_eq_of_writeKey_eq h).symm
  rw [writeKey_const, writeKey_const, List.cons.injEq] at h
  obtain ⟨rfl, hrs⟩ := Legible.debug_append_inj hr hs h.2
  exact ⟨rfl, hrs⟩

theorem not_atSeam_paren (cs : List Char) : ¬AtSeam ('(' :: cs) := by
  intro h
  exact absurd (h '(' rfl) (by decide)

theorem decodable_var (name : String) : Decodable (var name : Expr T) := by
  intro f r s hr hs h
  rcases eq_of_lead_name (lead_eq_of_writeKey_eq h).symm with ⟨name', rfl⟩ | ⟨name', args, rfl⟩
  · rw [writeKey_var, writeKey_var] at h
    obtain ⟨hname, hrs⟩ := quoted_append_inj h
    exact ⟨by rw [String.toList_inj.1 hname], hrs⟩
  · -- only a call goes on with a parenthesis after its name
    rw [writeKey_var, writeKey_call] at h
    obtain ⟨_, hrs⟩ := quoted_append_inj h
    exact absurd (hrs ▸ hr) (not_atSeam_paren _)

/-- An integer behind a minus sign is no key of an operand that a blank follows. -/
theorem writeKey_neg_ne {i : Int32} {operand : Expr T} {r s : List Char} :
    '-' :: writeKey (')' :: r) operand ≠ writeKey (' ' :: s) (int i : Expr T) := by
  intro h
  rw [writeKey_int] at h
  obtain ⟨n, hn⟩ := signedDecimal_append_eq_minus h.symm
  obtain ⟨c, cs, hc, hlead⟩ := Lead.ofChar_signedDecimal n (' ' :: s)
  rw [hc] at hn
  obtain ⟨j, rfl⟩ :=
    eq_int_of_lead (Option.some.inj ((lead_of_writeKey_eq_cons hn).symm.trans hlead))
  rw [← hc, writeKey_int] at hn
  obtain ⟨_, hseam⟩ := signedDecimal_append_inj (AtSeam.stopsAt_isDigit (atSeam_cons rfl _))
    (AtSeam.stopsAt_isDigit (atSeam_cons rfl _)) hn
  cases hseam

/-- **A negation is no operation on a negative number**: their keys part behind the digits. -/
theorem writeKey_neg_ne_join {op : Infix} {operand left right : Expr T} {r s : List Char} :
    writeKey r (neg operand) ≠ writeKey s (op.join left right) := by
  intro h
  rw [writeKey_join, writeKey_neg, List.cons.injEq] at h
  obtain ⟨i, rfl⟩ := eq_int_of_lead (Option.some.inj (lead_of_writeKey_eq_cons h.2.symm)).symm
  exact writeKey_neg_ne h.2

theorem decodable_join (op : Infix) {left right : Expr T} (hleft : Decodable left)
    (hright : Decodable right) : Decodable (op.join left right) := by
  intro f r s hr hs h
  have hlead : f.lead = .group := by
    rw [← lead_eq_of_writeKey_eq h]
    cases op <;> rfl
  rcases eq_of_lead_group hlead with ⟨op', left', right', rfl⟩ | ⟨operand, rfl⟩
  · rw [writeKey_join, writeKey_join, List.cons.injEq] at h
    obtain ⟨rfl, hmiddle⟩ := hleft _ _ _ (atSeam_cons rfl _) (atSeam_cons rfl _) h.2
    obtain ⟨rfl, hend⟩ := Infix.symbol_append_inj (List.tail_eq_of_cons_eq hmiddle)
    obtain ⟨rfl, hrs⟩ := hright _ _ _ (atSeam_cons rfl _) (atSeam_cons rfl _) hend
    exact ⟨rfl, List.tail_eq_of_cons_eq hrs⟩
  · exact (writeKey_neg_ne_join h.symm).elim

theorem decodable_neg {operand : Expr T} (hoperand : Decodable operand) :
    Decodable (neg operand) := by
  intro f r s hr hs h
  rcases eq_of_lead_group (lead_eq_of_writeKey_eq h).symm with ⟨op, left, right, rfl⟩ | ⟨e, rfl⟩
  · exact (writeKey_neg_ne_join h).elim
  · rw [writeKey_neg, writeKey_neg, List.cons.injEq, List.cons.injEq] at h
    obtain ⟨rfl, hrs⟩ := hoperand _ _ _ (atSeam_cons rfl _) (atSeam_cons rfl _) h.2.2
    exact ⟨rfl, List.tail_eq_of_cons_eq hrs⟩

/-- What stands behind an argument: a comma and the next one, or the end of the call. -/
def afterArgument (r : List Char) : List (Expr T) → List Char
  | [] => ')' :: r
  | e :: more => ',' :: ' ' :: writeKeys (')' :: r) (e :: more)

theorem writeKeys_cons (r : List Char) (e : Expr T) (more : List (Expr T)) :
    writeKeys (')' :: r) (e :: more) = writeKey (afterArgument r more) e := by
  cases more <;> rfl

theorem atSeam_afterArgument (r : List Char) (more : List (Expr T)) :
    AtSeam (afterArgument r more) := by
  cases more <;> exact atSeam_cons rfl _

theorem writeKeys_eq_of_afterArgument {r s : List Char} {more more' : List (Expr T)}
    (h : afterArgument r more = afterArgument s more') :
    writeKeys (')' :: r) more = writeKeys (')' :: s) more' := by
  cases more <;> cases more'
  · rw [writeKeys_nil, writeKeys_nil]
    exact h
  · exact absurd (List.head_eq_of_cons_eq h) (by decide)
  · exact absurd (List.head_eq_of_cons_eq h) (by decide)
  · exact List.tail_eq_of_cons_eq (List.tail_eq_of_cons_eq h)

/-- No argument starts with the end of a call. -/
theorem writeKeys_cons_ne (r s : List Char) (e : Expr T) (more : List (Expr T)) :
    writeKeys (')' :: r) (e :: more) ≠ ')' :: s := by
  rw [writeKeys_cons]
  intro h
  exact absurd (lead_of_writeKey_eq_cons h) (by simp [Lead.ofChar?])

theorem writeKeys_inj {args args' : List (Expr T)} {r s : List Char}
    (hargs : ∀ a ∈ args, Decodable a)
    (h : writeKeys (')' :: r) args = writeKeys (')' :: s) args') : args = args' ∧ r = s := by
  induction args generalizing args' with
  | nil =>
    cases args' with
    | nil =>
      rw [writeKeys_nil, writeKeys_nil] at h
      exact ⟨rfl, List.tail_eq_of_cons_eq h⟩
    | cons b bs =>
      rw [writeKeys_nil] at h
      exact (writeKeys_cons_ne _ _ _ _ h.symm).elim
  | cons a as ih =>
    cases args' with
    | nil =>
      rw [writeKeys_nil] at h
      exact (writeKeys_cons_ne _ _ _ _ h).elim
    | cons b bs =>
      rw [writeKeys_cons, writeKeys_cons] at h
      obtain ⟨rfl, hafter⟩ := hargs a List.mem_cons_self _ _ _ (atSeam_afterArgument r as)
        (atSeam_afterArgument s bs) h
      obtain ⟨rfl, hrs⟩ := ih (fun a ha => hargs a (List.mem_cons_of_mem _ ha))
        (writeKeys_eq_of_afterArgument hafter)
      exact ⟨rfl, hrs⟩

theorem decodable_call {name : String} {args : List (Expr T)} (hargs : ∀ a ∈ args, Decodable a) :
    Decodable (call name args) := by
  intro f r s hr hs h
  rcases eq_of_lead_name (lead_eq_of_writeKey_eq h).symm with ⟨name', rfl⟩ | ⟨name', args', rfl⟩
  · rw [writeKey_call, writeKey_var] at h
    obtain ⟨_, hrs⟩ := quoted_append_inj h
    exact absurd (hrs ▸ hs) (not_atSeam_paren _)
  · rw [writeKey_call, writeKey_call] at h
    obtain ⟨hname, hopen⟩ := quoted_append_inj h
    obtain ⟨rfl, hrs⟩ := writeKeys_inj hargs (List.tail_eq_of_cons_eq hopen)
    exact ⟨by rw [String.toList_inj.1 hname], hrs⟩

/-- **Every key is decodable**, by induction on the expression. -/
theorem decodable [Legible T] (e : Expr T) : Decodable e := by
  induction e using induct with
  | int i => exact decodable_int i
  | const x => exact decodable_const x
  | var name => exact decodable_var name
  | binary op left right hleft hright => exact decodable_join (.binary op) hleft hright
  | neg operand hoperand => exact decodable_neg hoperand
  | compare op left right hleft hright => exact decodable_join (.compare op) hleft hright
  | call name args hargs => exact decodable_call hargs

/-- Over a legible number type, only equal expressions have equal keys. -/
theorem eq_of_key_eq [Legible T] {e f : Expr T} (h : e.key = f.key) : e = f := by
  have hwritten : writeKey [] e = writeKey [] f := String.ofList_injective h
  exact (decodable e f [] [] atSeam_nil atSeam_nil hwritten).1

/-- **A key identifies an expression**: operators, numbers, the spelling of names and the structure.
All floats that are no number are one value here; the two zeros are two. -/
theorem key_injective : Function.Injective (key : Expr Fixed → String) ∧
    Function.Injective (key : Expr Float → String) := by
  refine ⟨?_, ?_⟩
  · intro e f h
    exact eq_of_key_eq h
  · intro e f h
    exact eq_of_key_eq h

end Formulary.Expr
