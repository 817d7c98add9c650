import Formulary.Parser.Basic

/-!
# Proofs/Parser/Bytes — a text as bytes

A position in a text counts the bytes before it. It is a boundary if a character starts or the text
ends there. What is left of a text while it is read starts at its `offset`, which is a boundary. The
character there is the first that is left, and the byte there stands for that character if it is ASCII
(`Encodes`).
-/

namespace Formulary.Parser

/-! ## Positions -/

/-- Whether a character starts, or the text ends, at a position. -/
def IsBoundary (text : String) (i : Nat) : Prop :=
  String.Pos.Raw.IsValid text ⟨i⟩

instance (text : String) (i : Nat) : Decidable (IsBoundary text i) :=
  inferInstanceAs (Decidable (String.Pos.Raw.IsValid text ⟨i⟩))

/-- The character that starts at a position. -/
def charAt? (text : String) (i : Nat) : Option Char :=
  text.toByteArray.utf8DecodeChar? i

/-- The byte at a position, as the character with its code. -/
def byteAt? (text : String) (i : Nat) : Option Char :=
  text.toByteArray.data[i]?.map Char.ofUInt8

/-- The position at which the rest of a text starts. -/
def offset (text : String) (rest : List Char) : Nat :=
  text.utf8ByteSize - byteSize rest

/-! ## Sizes -/

theorem byteSize_eq (cs : List Char) : byteSize cs = (String.ofList cs).utf8ByteSize := by
  suffices h : ∀ n, cs.foldl (fun n c => n + c.utf8Size) n = n + (String.ofList cs).utf8ByteSize by
    rw [byteSize, h, Nat.zero_add]
  induction cs with
  | nil => exact fun _ => rfl
  | cons c rest ih =>
    intro n
    rw [List.foldl_cons, ih, String.ofList_cons, String.utf8ByteSize_append,
      String.utf8ByteSize_singleton, Nat.add_assoc]

theorem byteSize_cons (c : Char) (rest : List Char) :
    byteSize (c :: rest) = c.utf8Size + byteSize rest := by
  rw [byteSize_eq, byteSize_eq, String.ofList_cons, String.utf8ByteSize_append,
    String.utf8ByteSize_singleton]

theorem byteSize_append (front rest : List Char) :
    byteSize (front ++ rest) = byteSize front + byteSize rest := by
  rw [byteSize_eq, byteSize_eq, byteSize_eq, String.ofList_append, String.utf8ByteSize_append]

theorem byteSize_toList (text : String) : byteSize text.toList = text.utf8ByteSize := by
  rw [byteSize_eq, String.ofList_toList]

theorem length_le_byteSize (cs : List Char) : cs.length ≤ byteSize cs := by
  induction cs with
  | nil => exact Nat.le_refl _
  | cons c rest ih =>
    have := c.utf8Size_pos
    rw [byteSize_cons, List.length_cons]
    omega

/-! ## The rest of a text -/

section Rest

variable {text : String} {rest : List Char}

/-- A text is what was read before and the rest. -/
theorem exists_eq_append (h : rest <:+ text.toList) :
    ∃ before, text = String.ofList before ++ String.ofList rest ∧
      (String.ofList before).utf8ByteSize = offset text rest := by
  obtain ⟨before, hbefore⟩ := h
  have htext : text = String.ofList before ++ String.ofList rest := by
    rw [← String.ofList_append, hbefore, String.ofList_toList]
  refine ⟨before, htext, ?_⟩
  rw [offset, byteSize_eq, htext, String.utf8ByteSize_append]
  omega

theorem offset_add_byteSize (h : rest <:+ text.toList) :
    offset text rest + byteSize rest = text.utf8ByteSize := by
  obtain ⟨before, htext, hoffset⟩ := exists_eq_append h
  rw [← hoffset, byteSize_eq, htext, String.utf8ByteSize_append]

@[simp] theorem offset_nil : offset text [] = text.utf8ByteSize := rfl

theorem offset_toList (text : String) : offset text text.toList = 0 := by
  rw [offset, byteSize_toList, Nat.sub_self]

/-- The next character takes its bytes. -/
theorem offset_tail {c : Char} (h : c :: rest <:+ text.toList) :
    offset text rest = offset text (c :: rest) + c.utf8Size := by
  have hbefore := offset_add_byteSize h
  have hafter := offset_add_byteSize ((List.suffix_cons c rest).trans h)
  rw [byteSize_cons] at hbefore
  omega

theorem offset_lt {c : Char} (h : c :: rest <:+ text.toList) :
    offset text (c :: rest) < text.utf8ByteSize := by
  have hsize := offset_add_byteSize h
  have hpos := c.utf8Size_pos
  rw [byteSize_cons] at hsize
  omega

/-- **The rest of a text starts at a boundary.** -/
theorem isBoundary_offset (h : rest <:+ text.toList) : IsBoundary text (offset text rest) := by
  obtain ⟨before, htext, hoffset⟩ := exists_eq_append h
  refine String.Pos.Raw.isValid_iff_exists_append.2 ⟨_, _, htext, ?_⟩
  exact String.Pos.Raw.ext hoffset.symm

theorem charAt?_offset (h : rest <:+ text.toList) : charAt? text (offset text rest) = rest.head? := by
  obtain ⟨before, htext, hoffset⟩ := exists_eq_append h
  have hbytes : text.toByteArray.extract (offset text rest) text.toByteArray.size =
      rest.utf8Encode := by
    rw [← hoffset, htext, String.toByteArray_append, String.toByteArray_ofList,
      ByteArray.size_append]
    refine (ByteArray.extract_append_eq_right ?_ rfl).trans String.toByteArray_ofList
    rw [← String.toByteArray_ofList, String.size_toByteArray]
  rw [charAt?, ByteArray.utf8DecodeChar?_eq_utf8DecodeChar?_extract, hbytes]
  cases rest with
  | nil => rfl
  | cons c rest => exact List.utf8DecodeChar?_utf8Encode_cons

/-- The text between two positions. -/
theorem extract_offset {front : List Char} (h : front ++ rest <:+ text.toList)
    (hstart : IsBoundary text (offset text (front ++ rest))) (hstop : IsBoundary text (offset text rest)) :
    text.extract ⟨_, hstart⟩ ⟨_, hstop⟩ = String.ofList front := by
  obtain ⟨before, htext, hoffset⟩ := exists_eq_append h
  have hrest := offset_add_byteSize ((List.suffix_append front rest).trans h)
  have hall := offset_add_byteSize h
  rw [byteSize_append, byteSize_eq front] at hall
  have hend : offset text rest =
      (String.ofList before).utf8ByteSize + (String.ofList front).utf8ByteSize := by omega
  rw [← String.toByteArray_inj, String.toByteArray_extract]
  change text.toByteArray.extract (offset text (front ++ rest)) (offset text rest) = _
  rw [← hoffset, hend, htext, String.ofList_append, ← String.append_assoc, String.toByteArray_append,
    String.toByteArray_append, ByteArray.append_assoc, ← String.size_toByteArray,
    ← String.size_toByteArray]
  have hskip := ByteArray.extract_append_size_add (a := (String.ofList before).toByteArray)
    (b := (String.ofList front).toByteArray ++ (String.ofList rest).toByteArray) (i := 0)
    (j := (String.ofList front).toByteArray.size)
  rw [Nat.add_zero] at hskip
  exact hskip.trans (ByteArray.extract_append_eq_left rfl)

theorem byteAt?_offset_nil (text : String) : byteAt? text (offset text []) = none := by
  have hsize : text.toByteArray.data.size = text.utf8ByteSize := by
    rw [ByteArray.size_data, String.size_toByteArray]
  rw [byteAt?, offset_nil, Array.getElem?_eq_none (Nat.le_of_eq hsize)]
  rfl

theorem byteAt?_offset_cons {c : Char} (h : c :: rest <:+ text.toList) :
    byteAt? text (offset text (c :: rest)) =
      (String.utf8EncodeChar c).head?.map Char.ofUInt8 := by
  obtain ⟨before, htext, hoffset⟩ := exists_eq_append h
  have hdata : text.toByteArray.data = (String.ofList before).toByteArray.data ++
      (String.utf8EncodeChar c ++ rest.flatMap String.utf8EncodeChar).toArray := by
    rw [htext, String.toByteArray_append, ByteArray.data_append,
      String.toByteArray_ofList (l := c :: rest), List.utf8Encode, List.data_toByteArray,
      List.flatMap_cons]
  have hlength : 0 < (String.utf8EncodeChar c).length := by
    rw [String.length_utf8EncodeChar]
    exact c.utf8Size_pos
  rw [byteAt?, ← hoffset, hdata, Array.getElem?_append_right, ByteArray.size_data,
    String.size_toByteArray, Nat.sub_self, List.getElem?_toArray, List.getElem?_append_left hlength,
    List.head?_eq_getElem?]
  exact Nat.le_refl _

end Rest

/-! ## Bytes and characters -/

/-- How a byte and a character go together: the character is the byte, or neither is ASCII. -/
def Encodes (b c : Char) : Prop :=
  b = c ∧ c.utf8Size = 1 ∨ 127 < b.toNat ∧ 127 < c.toNat

theorem toNat_ofUInt8 (b : UInt8) : (Char.ofUInt8 b).toNat = b.toNat := rfl

/-- The first byte of a character. -/
theorem encodes_head (c : Char) :
    ∃ b, (String.utf8EncodeChar c).head? = some b ∧ Encodes (Char.ofUInt8 b) c := by
  by_cases hascii : c.toNat ≤ 127
  · have hsize : c.utf8Size = 1 := Char.utf8Size_eq_one_iff.2 hascii
    refine ⟨_, by rw [String.utf8EncodeChar_eq_singleton hsize]; rfl, .inl ⟨?_, hsize⟩⟩
    apply Char.toNat_inj.1
    rw [toNat_ofUInt8]
    change c.toNat % 256 = c.toNat
    omega
  · have hbyte : ∀ n, 191 < n → n < 256 → 127 < (Char.ofUInt8 (UInt8.ofNat n)).toNat := by
      intro n hlow hhigh
      rw [toNat_ofUInt8, UInt8.toNat_ofNat_of_lt' hhigh]
      omega
    have hchar : 127 < c.toNat := Nat.lt_of_not_le hascii
    simp only [String.utf8EncodeChar]
    have hnot : ¬c.val.toNat ≤ 127 := hascii
    rw [if_neg hnot]
    split
    · exact ⟨_, rfl, .inr ⟨hbyte _ (by omega) (by omega), hchar⟩⟩
    · split
      · exact ⟨_, rfl, .inr ⟨hbyte _ (by omega) (by omega), hchar⟩⟩
      · exact ⟨_, rfl, .inr ⟨hbyte _ (by omega) (by omega), hchar⟩⟩

/-- **The first byte of the rest** stands for its first character. -/
theorem exists_byteAt?_offset {text : String} {c : Char} {rest : List Char}
    (h : c :: rest <:+ text.toList) :
    ∃ b, byteAt? text (offset text (c :: rest)) = some b ∧ Encodes b c := by
  obtain ⟨b, hb, hencodes⟩ := encodes_head c
  refine ⟨_, ?_, hencodes⟩
  rw [byteAt?_offset_cons h, hb]
  rfl

namespace Encodes

variable {b c : Char} (h : Encodes b c) {p : Char → Bool} (hp : ∀ c, 127 < c.toNat → p c = false)
include h hp

/-- What holds of ASCII characters alone can be read off the byte. -/
theorem apply_eq : p b = p c := by
  rcases h with ⟨rfl, -⟩ | ⟨hb, hc⟩
  · rfl
  · rw [hp b hb, hp c hc]

theorem utf8Size_eq_one (hc : p c = true) : c.utf8Size = 1 := by
  rcases h with ⟨-, hsize⟩ | ⟨-, hlarge⟩
  · exact hsize
  · rw [hp c hlarge] at hc
    cases hc

end Encodes

end Formulary.Parser
