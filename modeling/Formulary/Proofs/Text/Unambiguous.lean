import Formulary.Text.Digits
import Formulary.Text.Quoted

/-!
# Proofs/Text/Unambiguous — texts that show where they end

A written number or name is followed by more text, and a reader has to find the seam. Digits end at
the first character that is no digit (`signedDecimal_append_inj`), a quoted text at its closing quote
(`quoted_append_inj`): what is written, and what stands after it, are determined by the whole.
-/

namespace Formulary.Text

/-! ## Seams -/

/-- A text that does not go on with a character of a class. -/
def StopsAt (p : Char → Bool) (cs : List Char) : Prop :=
  ∀ c, cs.head? = some c → p c = false

theorem stopsAt_cons {p : Char → Bool} {c : Char} (h : p c = false) (cs : List Char) :
    StopsAt p (c :: cs) := by
  intro d hd
  cases hd
  exact h

theorem takeWhile_append_of_stopsAt {p : Char → Bool} {xs r : List Char}
    (hxs : ∀ c ∈ xs, p c = true) (hr : StopsAt p r) : (xs ++ r).takeWhile p = xs := by
  rw [List.takeWhile_append_of_pos hxs]
  cases r with
  | nil => simp
  | cons c r => simp [hr c rfl]

theorem dropWhile_append_of_stopsAt {p : Char → Bool} {xs r : List Char}
    (hxs : ∀ c ∈ xs, p c = true) (hr : StopsAt p r) : (xs ++ r).dropWhile p = r := by
  rw [List.dropWhile_append_of_pos hxs]
  cases r with
  | nil => simp
  | cons c r => simp [hr c rfl]

/-- **The seam after characters of a class**: it stands before the first character outside. -/
theorem append_inj_of_stopsAt {p : Char → Bool} {xs ys r s : List Char}
    (hxs : ∀ c ∈ xs, p c = true) (hys : ∀ c ∈ ys, p c = true) (hr : StopsAt p r)
    (hs : StopsAt p s) (h : xs ++ r = ys ++ s) : xs = ys ∧ r = s := by
  have hxy : xs = ys := by
    rw [← takeWhile_append_of_stopsAt hxs hr, h, takeWhile_append_of_stopsAt hys hs]
  subst hxy
  exact ⟨rfl, List.append_cancel_left h⟩

/-! ## Numbers -/

theorem isDigit_digitChar {n : Nat} (h : n < 10) : (digitChar n).isDigit = true := by
  have key : ∀ n : Fin 10, (digitChar n).isDigit = true := by decide
  exact key ⟨n, h⟩

theorem isDigit_of_mem_decimal {n : Nat} : ∀ c ∈ decimal n, c.isDigit = true := by
  induction n using decimal.induct with
  | case1 n h =>
    rw [decimal, if_pos h]
    simpa using isDigit_digitChar h
  | case2 n h ih =>
    rw [decimal, if_neg h]
    intro c hc
    rcases List.mem_append.1 hc with hc | hc
    · exact ih c hc
    · rw [List.mem_singleton.1 hc]
      exact isDigit_digitChar (Nat.mod_lt n (by decide))

theorem allDigits_of_subset {cs ds : List Char} (h : allDigits ds = true) (hsubset : cs ⊆ ds) :
    allDigits cs = true :=
  List.all_eq_true.2 fun c hc => List.all_eq_true.1 h c (hsubset hc)

theorem allDigits_decimal (n : Nat) : allDigits (decimal n) = true :=
  List.all_eq_true.2 isDigit_of_mem_decimal

theorem decimal_ne_nil (n : Nat) : decimal n ≠ [] := by
  rw [decimal]
  split <;> simp

/-- A decimal starts with a digit. -/
theorem decimal_eq_cons (n : Nat) : ∃ c cs, decimal n = c :: cs ∧ c.isDigit = true := by
  obtain ⟨c, cs, h⟩ := List.exists_cons_of_ne_nil (decimal_ne_nil n)
  exact ⟨c, cs, h, isDigit_of_mem_decimal c (h ▸ List.mem_cons_self)⟩

theorem decimal_append_inj {m n : Nat} {r s : List Char} (hr : StopsAt Char.isDigit r)
    (hs : StopsAt Char.isDigit s) (h : decimal m ++ r = decimal n ++ s) : m = n ∧ r = s := by
  obtain ⟨hd, hrs⟩ := append_inj_of_stopsAt isDigit_of_mem_decimal isDigit_of_mem_decimal hr hs h
  refine ⟨?_, hrs⟩
  rw [← ofDigits_decimal m, hd, ofDigits_decimal]

/-- A minus sign is no digit, so it tells the negative numbers. -/
theorem decimal_append_ne_minus (n : Nat) (r s : List Char) : decimal n ++ r ≠ '-' :: s := by
  obtain ⟨c, cs, hc, hdigit⟩ := decimal_eq_cons n
  intro h
  rw [hc, List.cons_append, List.cons.injEq] at h
  rw [h.1] at hdigit
  exact absurd hdigit (by decide)

theorem signedDecimal_natCast (n : Nat) : signedDecimal n = decimal n := by
  rw [signedDecimal, if_neg (by omega), Int.natAbs_natCast]

/-- Behind a minus sign stands a natural number. -/
theorem signedDecimal_append_eq_minus {i : Int} {r s : List Char}
    (h : signedDecimal i ++ r = '-' :: s) : ∃ n : Nat, s = signedDecimal n ++ r := by
  unfold signedDecimal at h
  split at h
  · rw [List.cons_append, List.cons.injEq] at h
    exact ⟨i.natAbs, by rw [signedDecimal_natCast, h.2]⟩
  · exact (decimal_append_ne_minus _ _ _ h).elim

/-- **An integer ends where its digits end.** -/
theorem signedDecimal_append_inj {i j : Int} {r s : List Char} (hr : StopsAt Char.isDigit r)
    (hs : StopsAt Char.isDigit s) (h : signedDecimal i ++ r = signedDecimal j ++ s) :
    i = j ∧ r = s := by
  unfold signedDecimal at h
  split at h <;> split at h
  · rw [List.cons_append, List.cons_append, List.cons.injEq] at h
    obtain ⟨habs, hrs⟩ := decimal_append_inj hr hs h.2
    exact ⟨by omega, hrs⟩
  · exact (decimal_append_ne_minus _ _ _ h.symm).elim
  · exact (decimal_append_ne_minus _ _ _ h).elim
  · obtain ⟨habs, hrs⟩ := decimal_append_inj hr hs h
    exact ⟨by omega, hrs⟩

/-! ## Quoted texts -/

theorem hexDigit_ne_brace {n : Nat} (h : n < 16) : hexDigit n ≠ '}' := by
  have key : ∀ n : Fin 16, hexDigit n ≠ '}' := by decide
  exact key ⟨n, h⟩

theorem ne_brace_of_mem_hexDigits {n : Nat} : ∀ c ∈ hexDigits n, c ≠ '}' := by
  induction n using hexDigits.induct with
  | case1 n h =>
    rw [hexDigits, if_pos h]
    simpa using hexDigit_ne_brace h
  | case2 n h ih =>
    rw [hexDigits, if_neg h]
    intro c hc
    rcases List.mem_append.1 hc with hc | hc
    · exact ih c hc
    · rw [List.mem_singleton.1 hc]
      exact hexDigit_ne_brace (Nat.mod_lt n (by decide))

/-- What an escape stands for, and the text after it. -/
def unescape : List Char → Option (Char × List Char)
  | '\\' :: '0' :: rest => some ('\x00', rest)
  | '\\' :: 't' :: rest => some ('\t', rest)
  | '\\' :: 'r' :: rest => some ('\r', rest)
  | '\\' :: 'n' :: rest => some ('\n', rest)
  | '\\' :: 'u' :: rest =>
    (ofHex? (rest.tail.takeWhile (· ≠ '}'))).map fun code =>
      (Char.ofNat code, (rest.tail.dropWhile (· ≠ '}')).tail)
  | '\\' :: c :: rest => some (c, rest)
  | c :: rest => some (c, rest)
  | [] => none

theorem unescape_hex (c : Char) (r : List Char) :
    unescape ('\\' :: 'u' :: '{' :: (hexDigits c.toNat ++ '}' :: r)) = some (c, r) := by
  have hmem : ∀ d ∈ hexDigits c.toNat, decide (d ≠ '}') = true := fun d hd =>
    decide_eq_true (ne_brace_of_mem_hexDigits d hd)
  have htake : (hexDigits c.toNat ++ '}' :: r).takeWhile (· ≠ '}') = hexDigits c.toNat := by
    rw [List.takeWhile_append_of_pos hmem]
    simp
  have hdrop : (hexDigits c.toNat ++ '}' :: r).dropWhile (· ≠ '}') = '}' :: r := by
    rw [List.dropWhile_append_of_pos hmem]
    simp
  rw [unescape, List.tail_cons, htake, hdrop, ofHex_hexDigits]
  simp

theorem unescape_plain {c : Char} (h : c ≠ '\\') (r : List Char) :
    unescape (c :: r) = some (c, r) := by
  unfold unescape
  split <;> simp_all

/-- **An escape is read back**, whatever stands after it. -/
theorem unescape_escape (c : Char) (r : List Char) :
    unescape (escape '"' c ++ r) = some (c, r) := by
  unfold escape
  split
  · next h => rw [h]; rfl
  split
  · next h => rw [h]; rfl
  split
  · next h => rw [h]; rfl
  split
  · next h => rw [h]; rfl
  split
  · next h => rcases h with rfl | rfl <;> rfl
  split
  · next h _ => exact unescape_plain (fun hc => h (.inl hc)) r
  · simpa using unescape_hex c r

theorem escape_append_inj {c d : Char} {r s : List Char}
    (h : escape '"' c ++ r = escape '"' d ++ s) : c = d ∧ r = s := by
  have hread : some (c, r) = some (d, s) := by
    rw [← unescape_escape c r, h, unescape_escape]
  simpa using hread

/-- An escape never starts with the quote. -/
theorem escape_append_ne_quote (c : Char) (r s : List Char) : escape '"' c ++ r ≠ '"' :: s := by
  intro h
  have hread : some (c, r) = some ('"', s) := by
    rw [← unescape_escape c r, h, unescape_plain (by decide)]
  simp only [Option.some.injEq, Prod.mk.injEq] at hread
  obtain ⟨rfl, rfl⟩ := hread
  simp [escape] at h

theorem escapeAll_append_inj {cs ds : List Char} {r s : List Char}
    (h : escapeAll '"' cs ++ '"' :: r = escapeAll '"' ds ++ '"' :: s) : cs = ds ∧ r = s := by
  simp only [escapeAll] at h
  induction cs generalizing ds with
  | nil =>
    cases ds with
    | nil => exact ⟨rfl, by simpa using h⟩
    | cons d ds =>
      rw [List.flatMap_cons, List.append_assoc] at h
      exact (escape_append_ne_quote _ _ _ h.symm).elim
  | cons c cs ih =>
    cases ds with
    | nil =>
      rw [List.flatMap_cons, List.append_assoc] at h
      exact (escape_append_ne_quote _ _ _ h).elim
    | cons d ds =>
      rw [List.flatMap_cons, List.flatMap_cons, List.append_assoc, List.append_assoc] at h
      obtain ⟨rfl, htail⟩ := escape_append_inj h
      obtain ⟨rfl, hrs⟩ := ih htail
      exact ⟨rfl, hrs⟩

theorem quoted_append (cs r : List Char) :
    quoted cs ++ r = '"' :: (escapeAll '"' cs ++ '"' :: r) := by
  rw [quoted, List.cons_append, List.cons_append, List.append_assoc]
  rfl

/-- **A quoted text ends at its closing quote**, which no escape inside it can pass for. -/
theorem quoted_append_inj {cs ds r s : List Char} (h : quoted cs ++ r = quoted ds ++ s) :
    cs = ds ∧ r = s := by
  rw [quoted_append, quoted_append, List.cons.injEq] at h
  exact escapeAll_append_inj h.2

end Formulary.Text
