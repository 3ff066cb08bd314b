import Mathlib.Data.List.Basic

/-! Texts as bytes in UTF-8. No text ends in another one from within a character, so the end of a
text can be compared byte by byte. -/

set_option autoImplicit false

namespace ComponentSchema.Text

theorem forall_toNat_lt {P : Char → Prop} {n : Nat} (each : ∀ i < n, P (Char.ofNat i)) :
    ∀ c : Char, c.toNat < n → P c := by
  intro c low
  rw [← Char.ofNat_toNat c]
  exact each c.toNat low

def bytes (text : String) : List UInt8 :=
  text.toUTF8.data.toList

theorem bytes_eq_flatMap (text : String) :
    bytes text = text.toList.flatMap String.utf8EncodeChar := by
  rw [bytes, String.toUTF8_eq_toByteArray, ← String.utf8Encode_toList, List.utf8Encode,
    List.data_toByteArray]

theorem utf8EncodeChar_of_lt {c : Char} (low : c.toNat < 128) :
    String.utf8EncodeChar c = [c.val.toUInt8] := by
  have small : c.val ≤ 127 := UInt32.le_iff_toNat_le.2 (Nat.le_of_lt_succ low)
  exact String.utf8EncodeChar_eq_singleton (Char.utf8Size_eq_one_iff.2 small)

/-- Beyond the first 128 characters, every byte of a character has its high bit set. -/
theorem le_of_mem_utf8EncodeChar {c : Char} {b : UInt8} (high : 128 ≤ c.toNat)
    (member : b ∈ String.utf8EncodeChar c) : 128 ≤ b.toNat := by
  have large : c.utf8Size ≠ 1 := by
    rw [ne_eq, Char.utf8Size_eq_one_iff, UInt32.le_iff_toNat_le]
    exact Nat.not_le.2 high
  have marked {a mark : UInt8} (top : 128 ≤ mark.toNat) : 128 ≤ (a ||| mark).toNat := by
    rw [UInt8.toNat_or]
    exact Nat.le_trans top Nat.right_le_or
  rcases c.utf8Size_eq with one | two | three | four
  · exact absurd one large
  · rw [String.utf8EncodeChar_eq_cons_cons two] at member
    rcases List.mem_pair.1 member with rfl | rfl <;> exact marked (by decide)
  · rw [String.utf8EncodeChar_eq_cons_cons_cons three] at member
    simp only [List.mem_cons, List.not_mem_nil, or_false] at member
    rcases member with rfl | rfl | rfl <;> exact marked (by decide)
  · rw [String.utf8EncodeChar_eq_cons_cons_cons_cons four] at member
    simp only [List.mem_cons, List.not_mem_nil, or_false] at member
    rcases member with rfl | rfl | rfl | rfl <;> exact marked (by decide)

/-! ### Ends -/

theorem eq_of_flatMap_utf8EncodeChar {one other : List Char}
    (same : one.flatMap String.utf8EncodeChar = other.flatMap String.utf8EncodeChar) :
    one = other := by
  have encoded : (String.ofList one).toByteArray = (String.ofList other).toByteArray := by
    rw [String.toByteArray_ofList, String.toByteArray_ofList, List.utf8Encode, List.utf8Encode,
      same]
  exact String.ofList_injective (String.toByteArray_inj.1 encoded)

/-- What is left of a character after its first byte does not begin a text. -/
theorem not_begins_within {c : Char} {front rest : List UInt8} {b : UInt8}
    (split : String.utf8EncodeChar c = front ++ b :: rest) (inside : front ≠ []) :
    ¬b.IsUTF8FirstByte := by
  have length : front.length < (String.utf8EncodeChar c).length := by simp [split]
  have here : (String.utf8EncodeChar c)[front.length] = b := by simp [split]
  rw [← here, UInt8.isUTF8FirstByte_getElem_utf8EncodeChar]
  exact fun zero => inside (List.eq_nil_of_length_eq_zero zero)

theorem exists_first_byte (c : Char) :
    ∃ b rest, String.utf8EncodeChar c = b :: rest ∧ b.IsUTF8FirstByte := by
  have first := UInt8.isUTF8FirstByte_getElem_zero_utf8EncodeChar (c := c)
  obtain ⟨b, rest, split⟩ := List.exists_cons_of_ne_nil (String.utf8EncodeChar_ne_nil (c := c))
  simp only [split, List.getElem_cons_zero] at first
  exact ⟨b, rest, split, first⟩

theorem suffix_of_append_flatMap {one other : List Char} (front : List UInt8)
    (split : front ++ one.flatMap String.utf8EncodeChar = other.flatMap String.utf8EncodeChar) :
    one <:+ other := by
  -- By induction on the text, with the bytes in front cut off anywhere, also within a character.
  induction other generalizing front with
  | nil =>
    have empty : one = [] := eq_of_flatMap_utf8EncodeChar (List.append_eq_nil_iff.1 split).2
    exact empty ▸ List.suffix_rfl
  | cons c other ih =>
    have later : one <:+ other → one <:+ c :: other :=
      fun ends => ends.trans (List.suffix_cons c other)
    rw [List.flatMap_cons] at split
    rcases List.append_eq_append_iff.1 split with ⟨inner, whole, same⟩ | ⟨front', -, same⟩
    · match front, inner with
      | [], inner =>
        rw [List.nil_append] at whole
        rw [← whole, ← List.flatMap_cons] at same
        have equal : one = c :: other := eq_of_flatMap_utf8EncodeChar same
        exact equal ▸ List.suffix_rfl
      | _ :: _, [] => exact later (ih [] same)
      | first :: front, b :: inner =>
        have within := not_begins_within whole (List.cons_ne_nil first front)
        cases one with
        | nil => cases same
        | cons d one =>
          obtain ⟨b', rest, encoded, begins⟩ := exists_first_byte d
          rw [List.flatMap_cons, encoded] at same
          exact absurd ((List.cons.inj same).1 ▸ begins) within
    · exact later (ih front' same.symm)

theorem bytes_suffix_iff {suffix text : String} :
    bytes suffix <:+ bytes text ↔ suffix.toList <:+ text.toList := by
  rw [bytes_eq_flatMap, bytes_eq_flatMap]
  constructor
  · rintro ⟨front, split⟩
    exact suffix_of_append_flatMap front split
  · rintro ⟨front, split⟩
    rw [← split, List.flatMap_append]
    exact List.suffix_append _ _

end ComponentSchema.Text
