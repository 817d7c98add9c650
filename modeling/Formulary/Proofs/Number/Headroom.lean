import Formulary.Proofs.Number.Decimal
import Formulary.Proofs.Number.Machine

/-!
# Proofs/Number/Headroom — reading decimal text stays within its words

The machine of `Proofs/Number/Machine` reads every text as `ofDecimal?` does, and refuses a text only
where `ofDecimal?` does (`Machine.readDecimal_eq_ofDecimal?`); so no slice cuts a character and no step
leaves its range. The texts are cut at single bytes, and only digits are left when bytes are counted. At
most 38 digits are gathered, so that the significand leaves one bit of 128 free, for the doubled
remainders and the carries; 28 decimal places leave room for 32 bits behind them.
-/

namespace Formulary.Fixed

open Text

namespace Machine

/-! ## Cutting the text -/

theorem utf8Size_of_isExponentMark (c : Char) (h : isExponentMark c = true) : c.utf8Size = 1 := by
  rcases isExponentMark_iff.1 h with rfl | rfl <;> rfl

theorem takeExponent_eq (text : String) :
    takeExponent text = need .refused
      ((cutExponent? text.toList).map fun cut => (String.ofList cut.1, cut.2)) := by
  rw [takeExponent, cutExponent?]
  cases h : text.toList.dropWhile (!isExponentMark ·) with
  | nil =>
    rw [cutAt?_of_nil h, pure_bind]
    dsimp only
    rw [Option.map_some, String.ofList_toList, need_some]
  | cons mark digits =>
    rw [cutAt?_of_cons h utf8Size_of_isExponentMark, pure_bind]
    dsimp only
    rw [String.toList_ofList]
    cases readInt32? digits <;> rfl

theorem isSign_of_large (c : Char) (h : 127 < c.toNat) : isSign c = false := by
  rw [isSign, decide_eq_false (Parser.ne_of_large h (by decide)),
    decide_eq_false (Parser.ne_of_large h (by decide))]
  rfl

/-- No other character starts with the byte of a sign. -/
theorem takeSign_of_stopsAt {text : String} (h : StopsAt isSign text.toList) :
    takeSign text = pure (false, text) := by
  have hbyte := Parser.any_byteAt? (List.suffix_refl text.toList) isSign_of_large
  have hhead : text.toList.head?.any isSign = false := by
    rw [Option.any_eq_false]
    exact fun c hc => by rw [h c hc]
  rw [Parser.offset_toList, hhead] at hbyte
  unfold takeSign
  split
  · next hminus => rw [hminus] at hbyte; cases hbyte
  · next hplus => rw [hplus] at hbyte; cases hbyte
  · rfl

theorem byteAt?_of_isSign {text : String} {sign : Char} {rest : List Char}
    (h : text.toList = sign :: rest) (hsign : isSign sign = true) :
    Parser.byteAt? text 0 = some sign := by
  have hsuffix : sign :: rest <:+ text.toList := h ▸ List.suffix_refl _
  obtain ⟨b, hb, hencodes⟩ := Parser.exists_byteAt?_offset hsuffix
  rw [← h, Parser.offset_toList] at hb
  rcases hencodes with ⟨rfl, -⟩ | ⟨-, hlarge⟩
  · exact hb
  · rw [isSign_of_large sign hlarge] at hsign
    cases hsign

theorem takeSign_eq (text : String) :
    takeSign text = pure ((cutSign text.toList).1, String.ofList (cutSign text.toList).2) := by
  unfold cutSign
  split
  · next rest h =>
    have hslice : slice text 1 text.utf8ByteSize = pure (String.ofList rest) :=
      @slice_behind text [] rest '-' h rfl
    rw [takeSign, byteAt?_of_isSign h rfl]
    dsimp only
    rw [hslice]
    rfl
  · next rest h =>
    have hslice : slice text 1 text.utf8ByteSize = pure (String.ofList rest) :=
      @slice_behind text [] rest '+' h rfl
    rw [takeSign, byteAt?_of_isSign h rfl]
    dsimp only
    rw [hslice]
    rfl
  · next hminus hplus =>
    have hstop : StopsAt isSign text.toList := by
      intro c hc
      obtain ⟨rest, hrest⟩ := List.head?_eq_some_iff.1 hc
      refine Bool.eq_false_iff.2 fun hsign => ?_
      rcases Bool.or_eq_true_iff.1 hsign with hsign | hsign
      · exact hplus rest (of_decide_eq_true hsign ▸ hrest)
      · exact hminus rest (of_decide_eq_true hsign ▸ hrest)
    rw [takeSign_of_stopsAt hstop, String.ofList_toList]

/-- The point is a single byte. -/
theorem splitPoint_eq (body : List Char) :
    splitPoint (String.ofList body) = pure (String.ofList (body.takeWhile (· ≠ '.')),
      String.ofList ((body.dropWhile (· ≠ '.')).drop 1)) := by
  have hnot : (fun c : Char => decide (c ≠ '.')) = fun c => !decide (c = '.') :=
    funext fun _ => decide_not
  have hpoint : ∀ c : Char, decide (c = '.') = true → c.utf8Size = 1 := by
    intro c hc
    rw [of_decide_eq_true hc]
    rfl
  rw [hnot, splitPoint]
  have hlist : (String.ofList body).toList = body := String.toList_ofList
  cases h : body.dropWhile (fun c => !decide (c = '.')) with
  | nil =>
    have hall : body.takeWhile (fun c => !decide (c = '.')) = body := by
      have hsplit := List.takeWhile_append_dropWhile (p := fun c => !decide (c = '.')) (l := body)
      rwa [h, List.append_nil] at hsplit
    rw [cutAt?_of_nil (by rw [hlist, h]), hall]
    rfl
  | cons c rest =>
    rw [cutAt?_of_cons (by rw [hlist, h]) hpoint, hlist]
    rfl

/-- The parts of a literal as texts. -/
def partsOf (l : Literal) : Parts :=
  ⟨l.negative, String.ofList l.whole, String.ofList l.fraction, l.exponent⟩

theorem isEmpty_ofList (cs : List Char) : (String.ofList cs).isEmpty = true ↔ cs = [] := by
  rw [String.isEmpty_iff, String.ofList_eq_empty_iff]

/-- **The text is cut between characters.** -/
theorem readParts_eq (text : String) :
    readParts text = need .refused ((Literal.read? text.toList).map partsOf) := by
  rw [readParts, takeExponent_eq, Literal.read?]
  cases cutExponent? text.toList with
  | none => rfl
  | some cut =>
    obtain ⟨mantissa, exponent⟩ := cut
    simp only [Option.map_some, need_some, pure_bind, Option.bind_eq_bind, Option.bind_some, takeSign_eq,
      String.toList_ofList, splitPoint_eq, isEmpty_ofList, List.all_append, all_bytes]
    split
    · rfl
    · split <;> rfl

/-! ## Gathering the digits -/

/-- A literal as it is read from a text. -/
structure IsRead (l : Literal) : Prop where
  whole : allDigits l.whole = true
  fraction : allDigits l.fraction = true
  exponent : IsInt32 l.exponent

theorem isInt32_of_readInt32? {cs : List Char} {i : Int} (h : readInt32? cs = some i) : IsInt32 i := by
  unfold readInt32? at h
  split at h
  obtain ⟨-, h⟩ := Option.ite_none_right_eq_some.1 h
  obtain ⟨hrange, h⟩ := Option.ite_none_right_eq_some.1 h
  cases h
  exact hrange

theorem isInt32_of_cutExponent? {cs mantissa : List Char} {exponent : Int}
    (h : cutExponent? cs = some (mantissa, exponent)) : IsInt32 exponent := by
  unfold cutExponent? at h
  split at h
  · cases h
    exact ⟨by decide, by decide⟩
  · obtain ⟨i, hi, heq⟩ := Option.map_eq_some_iff.1 h
    cases heq
    exact isInt32_of_readInt32? hi

theorem isRead_of_read? {cs : List Char} {l : Literal} (h : Literal.read? cs = some l) : IsRead l := by
  obtain ⟨⟨mantissa, exponent⟩, hcut, h⟩ := Option.bind_eq_some_iff.1 h
  dsimp only at h
  split at h
  · cases h
  · split at h
    · next hdigits =>
      cases h
      obtain ⟨hwhole, hfraction⟩ := Bool.and_eq_true_iff.1 hdigits
      exact ⟨hwhole, hfraction, isInt32_of_cutExponent? hcut⟩
    · cases h

theorem utf8ByteSize_of_allDigits {cs : List Char} (h : allDigits cs = true) :
    (String.ofList cs).utf8ByteSize = cs.length := by
  rw [← Parser.byteSize_eq, byteSize_of_allDigits h]

theorem atMost_eq (limit : Nat) {cs : List Char} (h : allDigits cs = true) :
    atMost limit (String.ofList cs) = pure (String.ofList (cs.take limit)) := by
  rw [atMost, utf8ByteSize_of_allDigits h]
  split
  · next hlong =>
    have htake := allDigits_of_subset h (List.take_subset limit cs)
    have hsplit : (String.ofList cs).toList = cs.take limit ++ cs.drop limit := by
      rw [String.toList_ofList, List.take_append_drop]
    have hslice := slice_front hsplit
    rwa [byteSize_of_allDigits htake, List.length_take_of_le (Nat.le_of_lt hlong)] at hslice
  · next hshort => rw [List.take_of_length_le (Nat.not_lt.1 hshort)]

/-- **The digits that are dropped are whole characters.** -/
theorem significant_eq {l : Literal} (hl : IsRead l) :
    significant (String.ofList l.whole) (String.ofList l.fraction) =
      if l.wholeDigits.length > 20 then throw .refused
      else pure (String.ofList l.wholeDigits, String.ofList l.fractionDigits) := by
  have hwhole : allDigits l.wholeDigits = true :=
    allDigits_of_subset hl.whole (List.dropWhile_sublist _).subset
  have hfraction : allDigits (l.fraction.reverse.dropWhile (· = '0')).reverse = true :=
    allDigits_of_subset hl.fraction fun c hc =>
      List.mem_reverse.1 ((List.dropWhile_sublist _).subset (List.mem_reverse.1 hc))
  have htrim : trimStart (String.ofList l.whole) = String.ofList l.wholeDigits := by
    rw [trimStart, String.toList_ofList, Literal.wholeDigits]
  rw [significant, trimEnd, String.toList_ofList, htrim, utf8ByteSize_of_allDigits hwhole,
    atMost_eq _ hfraction]
  rfl

theorem pushByte_digit (n : Nat) {b : UInt8} (h : isDigitByte b = true) :
    pushByte n b = need .limit
      ((below128 (n * 10)).bind fun n => below128 (n + digitValue (Char.ofUInt8 b))) := by
  rw [pushByte, byteValue_of_isDigit h]
  cases below128 (n * 10) <;> rfl

theorem gather_eq_gather? {cs : List Char} (h : allDigits cs = true) :
    gather (bytes (String.ofList cs)) = need .limit (gather? cs) := by
  rw [gather, gather?]
  generalize 0 = n
  induction cs generalizing n with
  | nil => rfl
  | cons c cs ih =>
    obtain ⟨hc, hcs⟩ := Bool.and_eq_true_iff.1 h
    obtain ⟨b, hb, rfl⟩ := exists_digitByte hc
    rw [bytes_ofList, List.flatMap_cons, hb, List.singleton_append, List.foldlM_cons, pushByte_digit n hc,
      List.foldlM_cons, need_bind, ← bytes_ofList]
    simp only [ih hcs]
    rfl

/-- **The digits stay below `2 ^ 128`**, and no digit has to be refused for it. -/
theorem gather_eq {l : Literal} (hl : IsRead l) (h : l.wholeDigits.length ≤ 20) :
    gather (bytes (String.ofList l.wholeDigits) ++ bytes (String.ofList l.fractionDigits)) =
      pure (ofDigits (l.wholeDigits ++ l.fractionDigits)) := by
  have hdigits := Literal.allDigits_digits hl.whole hl.fraction
  rw [bytes_append, gather_eq_gather? hdigits, gather?_eq hdigits (l.length_digits_le h), need_some]

/-- One digit more than the limits let through can be one too many. -/
example : gather (List.replicate 39 57) = throw .limit := by decide

/-- The number of decimal places is only refused if it is too large. -/
theorem scaleOf_eq {l : Literal} (hl : IsRead l) :
    scaleOf (String.ofList l.fractionDigits) l.exponent =
      if (l.fractionDigits.length : Int) - l.exponent < 2147483648 then
        pure ((l.fractionDigits.length : Int) - l.exponent)
      else throw .refused := by
  have hlength : l.fractionDigits.length ≤ 28 := by
    have hread : l.fractionDigits.length ≤ l.fractionLimit := List.length_take_le _ _
    rw [Literal.fractionLimit] at hread
    omega
  have hdigits : allDigits l.fractionDigits = true :=
    allDigits_of_subset (Literal.allDigits_digits hl.whole hl.fraction)
      (List.subset_append_right _ _)
  obtain ⟨hlow, hhigh⟩ := hl.exponent
  have hint : int32 (l.fractionDigits.length : Int) = pure (l.fractionDigits.length : Int) :=
    if_pos ⟨by omega, by omega⟩
  rw [scaleOf, utf8ByteSize_of_allDigits hdigits, hint, pure_bind]
  dsimp only
  exact ite_congr (propext ⟨fun h => h.2, fun h => ⟨by omega, h⟩⟩) (fun _ => rfl) fun _ => rfl

/-! ## Bringing it to 32 fractional bits -/

theorem shift_eq (n : Nat) {scale : Int} (h : scale ≤ 0) :
    shift n scale = need .refused (Scaled.toRaw? ⟨n, scale⟩) := by
  rw [Scaled.toRaw?, if_pos h, shift, need_bind]
  simp only [need_bind]

/-- Numbers of 38 digits leave a bit for doubling a remainder and for counting up a quotient. -/
theorem nearest_eq {a b : Nat} (ha : a < tenPower 38) (hb : 0 < b) (hle : b ≤ tenPower 38) :
    nearest a b = pure (a / b + if b ≤ a % b * 2 then 1 else 0) := by
  have hlimit : tenPower 38 * 2 < limit128 := by decide
  have hremainder := Nat.mod_lt a hb
  have hquotient := Nat.div_le_self a b
  have hcarry : a / b + (if b ≤ a % b * 2 then 1 else 0) < limit128 := by
    split <;> omega
  rw [nearest, remainder_of_pos a hb, pure_bind, word128_of_lt (by omega), pure_bind,
    quotient_of_pos a hb, pure_bind, word128_of_lt hcarry]

theorem drop_eq {n excess : Nat} (hn : n < tenPower 38) (h : excess ≤ 38) :
    drop n excess = pure (dropDigits n excess) := by
  have hpower : powerOfTen? excess = some (tenPower excess) := if_pos (by omega)
  rw [drop, hpower, need_some, pure_bind, nearest_eq hn (tenPower_pos excess) (tenPower_le h),
    dropDigits]

/-- The remainder by a power of ten leaves room for 32 more bits. -/
theorem exists_widen?_mod (n : Nat) {scale : Nat} (h : scale ≤ 28) :
    ∃ numerator, widen? (n % tenPower scale) = some numerator ∧ numerator < tenPower 38 := by
  have hbound : n % tenPower scale * 4294967296 < tenPower 38 :=
    calc n % tenPower scale * 4294967296
      _ < tenPower scale * 4294967296 :=
        Nat.mul_lt_mul_of_pos_right (Nat.mod_lt n (tenPower_pos scale)) (by decide)
      _ ≤ tenPower 28 * 4294967296 := Nat.mul_le_mul_right _ (tenPower_le h)
      _ < tenPower 38 := by decide
  exact ⟨_, below128_of_lt (Nat.lt_trans hbound (by decide)), hbound⟩

theorem divide_eq (n : Nat) {scale : Nat} (h : scale ≤ 28) :
    divide n scale = need .refused (divideScaled? n scale) := by
  have hpos := tenPower_pos scale
  have hpower : powerOfTen? scale = some (tenPower scale) := if_pos (by omega)
  obtain ⟨numerator, hwide, hnumerator⟩ := exists_widen?_mod n h
  have hnearest := nearest_eq hnumerator hpos (tenPower_le (by omega))
  rw [divide, hpower, need_some, pure_bind, quotient_of_pos n hpos, pure_bind,
    remainder_of_pos n hpos, divideScaled?, need_bind]
  simp only [pure_bind, hwide, need_some, hnearest, Option.bind_eq_bind, Option.bind_some]

theorem round_eq {n : Nat} {scale : Int} (hn : n < tenPower 38) (hpos : 0 < scale) (h : scale ≤ 66) :
    round n scale = need .refused (Scaled.toRaw? ⟨n, scale⟩) := by
  have hword : ∀ i : Int, 0 ≤ i → i ≤ 66 → word32 i = pure i.toNat := fun i hlow hhigh =>
    if_pos ⟨hlow, by omega⟩
  have hsmall : ¬66 < scale.toNat := by omega
  rw [round, Scaled.toRaw?, if_neg (Int.not_le.2 hpos)]
  dsimp only
  rw [if_neg hsmall]
  by_cases hlong : 28 < scale
  · have hint : int32 (scale - 28) = pure (scale - 28) := if_pos ⟨by omega, by omega⟩
    have hlong' : 28 < scale.toNat := by omega
    have hexcess : (scale - 28).toNat = scale.toNat - 28 := by omega
    rw [if_pos hlong, if_pos hlong', hint, pure_bind, hword _ (by omega) (by omega), pure_bind, hexcess,
      drop_eq hn (by omega), pure_bind, divide_eq _ (Nat.le_refl 28)]
  · have hshort : ¬28 < scale.toNat := by omega
    rw [if_neg hlong, if_neg hshort, hword _ (by omega) h, pure_bind, divide_eq n (by omega)]

/-- What is stored fits a signed word of 128 bits on the way, with either sign. -/
theorem store_eq (negative : Bool) (magnitude : Nat) :
    store negative magnitude =
      need .refused (narrow? (if negative then -(magnitude : Int) else magnitude)) := by
  cases negative with
  | false => simp only [store, Bool.false_eq_true, if_false]
  | true =>
    rw [store]
    simp only [if_true]
    split
    · next hlarge =>
      rw [narrow?_of_not_fits fun hfits => by have := hfits.1; omega, need_none]
    · next hsmall =>
      have hfits : Fits (-(magnitude : Int)) := ⟨by omega, by omega⟩
      rw [int128_of_natAbs_lt (by omega), pure_bind, int128_of_natAbs_lt (by omega), pure_bind,
        narrow?_of_fits hfits, need_some, need_some]

theorem narrow?_zero (negative : Bool) :
    narrow? (if negative then -((0 : Nat) : Int) else (0 : Nat)) = some zero := by
  cases negative <;> rfl

/-- **The four ways to the raw value**: a whole number, one too small to count, one with more than 28
decimal places, and one with fewer. -/
theorem assemble_eq (negative : Bool) {n : Nat} (scale : Int) (hn : n < tenPower 38) :
    assemble negative n scale = need .refused (do
      let magnitude ← Scaled.toRaw? ⟨n, scale⟩
      narrow? (if negative then -(magnitude : Int) else magnitude)) := by
  rw [need_bind, assemble]
  simp only [← store_eq]
  split
  · next hwhole => rw [shift_eq n hwhole]
  · next hpos =>
    split
    · next hlarge =>
      have hraw : Scaled.toRaw? ⟨n, scale⟩ = some 0 := by
        have hplaces : 66 < scale.toNat := by omega
        rw [Scaled.toRaw?, if_neg hpos]
        exact if_pos hplaces
      rw [hraw, need_some, pure_bind, store_eq, narrow?_zero, need_some]
    · next hsmall => rw [round_eq hn (Int.not_le.1 hpos) (Int.not_lt.1 hsmall)]

theorem convert_eq {l : Literal} (hl : IsRead l) :
    convert (partsOf l) = need .refused (do
      let magnitude ← (← l.scaled?).toRaw?
      narrow? (if l.negative then -(magnitude : Int) else magnitude)) := by
  rw [convert, partsOf, Literal.scaled?]
  dsimp only
  rw [significant_eq hl]
  split
  · rfl
  · next hlength =>
    have hdigits := Literal.allDigits_digits hl.whole hl.fraction
    have hcount := l.length_digits_le (Nat.not_lt.1 hlength)
    have hbound := Nat.lt_of_lt_of_le (ofDigits_lt hdigits) (tenPower_le hcount)
    rw [pure_bind, gather_eq hl (Nat.not_lt.1 hlength), gather?_eq hdigits hcount, pure_bind]
    simp only [Option.bind_eq_bind, Option.bind_some]
    generalize ofDigits (l.wholeDigits ++ l.fractionDigits) = n at hbound
    split
    · exact (congrArg (need .refused) (narrow?_zero l.negative)).symm
    · rw [scaleOf_eq hl]
      split
      · exact assemble_eq l.negative _ hbound
      · rfl

/-- **No step leaves its range, whatever the text.** -/
theorem readDecimal_eq_ofDecimal? (text : String) :
    readDecimal text = need .refused (ofDecimal? text.toList) := by
  rw [readDecimal, readParts_eq, ofDecimal?]
  cases h : Literal.read? text.toList with
  | none => rfl
  | some l =>
    rw [Option.map_some, need_some, pure_bind, convert_eq (isRead_of_read? h)]
    rfl

end Machine

end Formulary.Fixed
