import Mathlib
import ComponentSchema.Proofs.SameRules
import ComponentSchema.Proofs.TextBytes

/-! Optional suffixes against names, in capital and in small letters. Of a suffix only the letters
from A to Z have two forms; all other characters are compared as they are. -/

set_option autoImplicit false

namespace ComponentSchema

namespace Text

/-! ### Characters -/

def letters : List (Char × Char) :=
  "ABCDEFGHIJKLMNOPQRSTUVWXYZ".toList.zip "abcdefghijklmnopqrstuvwxyz".toList

/-- The same character, or two forms of one letter. -/
def SameLetter (c d : Char) : Prop :=
  c = d ∨ (c, d) ∈ letters ∨ (d, c) ∈ letters

theorem toNat_lt_of_isUpper {c : Char} (capital : c.isUpper = true) : c.toNat < 91 :=
  Nat.lt_succ_of_le (UInt32.le_iff_toNat_le.1 (of_decide_eq_true capital).2)

theorem mem_letters_iff {c d : Char} : (c, d) ∈ letters ↔ c.isUpper = true ∧ d = c.toLower := by
  constructor
  · intro member
    have listed : ∀ pair ∈ letters, pair.1.isUpper = true ∧ pair.2 = pair.1.toLower := by decide
    exact listed (c, d) member
  · rintro ⟨capital, rfl⟩
    have listed : ∀ c : Char, c.toNat < 91 → c.isUpper = true → (c, c.toLower) ∈ letters :=
      forall_toNat_lt (by decide)
    exact listed c (toNat_lt_of_isUpper capital) capital

theorem sameLetter_iff {c d : Char} : SameLetter c d ↔ c.toLower = d.toLower := by
  rw [SameLetter, mem_letters_iff, mem_letters_iff]
  constructor
  · rintro (rfl | ⟨_, rfl⟩ | ⟨_, rfl⟩)
    · rfl
    · exact (toLower_toLower c).symm
    · exact toLower_toLower d
  · intro same
    by_cases capital : c.isUpper = true
    · by_cases other : d.isUpper = true
      · have distinct : ∀ one ∈ letters, ∀ two ∈ letters, one.2 = two.2 → one.1 = two.1 := by decide
        exact .inl (distinct (c, c.toLower) (mem_letters_iff.2 ⟨capital, rfl⟩) (d, d.toLower)
          (mem_letters_iff.2 ⟨other, rfl⟩) same)
      · rw [Char.toLower_eq_of_not_isUpper other] at same
        exact .inr (.inl ⟨capital, same.symm⟩)
    · rw [Char.toLower_eq_of_not_isUpper capital] at same
      by_cases other : d.isUpper = true
      · exact .inr (.inr ⟨other, same⟩)
      · rw [Char.toLower_eq_of_not_isUpper other] at same
        exact .inl same

theorem map_toLower_eq_iff {one other : List Char} :
    one.map Char.toLower = other.map Char.toLower ↔ List.Forall₂ SameLetter one other := by
  rw [← List.forall₂_eq_eq_eq, List.forall₂_map_left_iff, List.forall₂_map_right_iff]
  exact ⟨(·.imp fun _ _ => sameLetter_iff.2), (·.imp fun _ _ => sameLetter_iff.1)⟩

/-- The text is long enough, and its last characters are those of the suffix, each the same or
another form of the letter. -/
structure EndsAlike (text suffix : String) : Prop where
  long : suffix.length ≤ text.length
  alike : List.Forall₂ SameLetter (text.toList.drop (text.length - suffix.length)) suffix.toList

theorem endsAlike_iff {text suffix : String} : EndsAlike text suffix ↔ EndsIn text suffix := by
  constructor
  · rintro ⟨-, alike⟩
    exact ⟨_, _, (List.take_append_drop _ _).symm, map_toLower_eq_iff.2 alike⟩
  · rintro ⟨front, back, split, same⟩
    have size : back.length = suffix.length := by
      simpa only [List.length_map, String.length_toList] using congrArg List.length same
    have length : text.length = front.length + suffix.length := by
      rw [← String.length_toList, split, List.length_append, size]
    have last : text.toList.drop (text.length - suffix.length) = back := by
      rw [length, Nat.add_sub_cancel, split, List.drop_left]
    exact ⟨by omega, last ▸ map_toLower_eq_iff.1 same⟩

/-! ### Bytes -/

def lowercasedByte (b : UInt8) : UInt8 :=
  if 65 ≤ b && b ≤ 90 then b + 32 else b

theorem lowercasedByte_of_le {b : UInt8} (high : 128 ≤ b.toNat) : lowercasedByte b = b := by
  have other : ¬b ≤ 90 := by
    rw [UInt8.le_iff_toNat_le]
    exact Nat.not_le.2 (Nat.lt_of_lt_of_le (by decide) high)
  simp [lowercasedByte, other]

theorem utf8EncodeChar_toLower (c : Char) :
    String.utf8EncodeChar c.toLower = (String.utf8EncodeChar c).map lowercasedByte := by
  by_cases low : c.toNat < 128
  · have listed : ∀ c : Char, c.toNat < 128 →
        String.utf8EncodeChar c.toLower = (String.utf8EncodeChar c).map lowercasedByte :=
      forall_toNat_lt (by decide)
    exact listed c low
  · have high := Nat.le_of_not_lt low
    have small : ¬c.isUpper = true := fun capital =>
      low (Nat.lt_trans (toNat_lt_of_isUpper capital) (by decide))
    have kept := List.map_congr_left fun b member =>
      lowercasedByte_of_le (le_of_mem_utf8EncodeChar high member)
    rw [Char.toLower_eq_of_not_isUpper small, kept, List.map_id']

/-- Small letters can be made byte by byte: no byte of a longer character is that of a capital
letter. -/
theorem bytes_lowercased (text : String) :
    bytes (lowercased text) = (bytes text).map lowercasedByte := by
  rw [bytes_eq_flatMap, bytes_eq_flatMap, toList_lowercased, List.flatMap_map, List.map_flatMap]
  exact List.flatMap_congr fun c _ => utf8EncodeChar_toLower c

theorem endsIn_iff_bytes {text suffix : String} :
    EndsIn text suffix ↔ (bytes suffix).map lowercasedByte <:+ (bytes text).map lowercasedByte := by
  rw [endsIn_iff, ← bytes_suffix_iff, bytes_lowercased, bytes_lowercased]

end Text

open OverrideTable (Build)

/-- A table makes a field optional exactly if its name ends, up to the form of its letters, in a
suffix of the base or in a text that was added, whatever else was added. It makes no difference
whether characters or bytes are compared. -/
theorem forcesOptional_table_iff (b : Build) (field : String) :
    (b.table.forcesOptional field = true ↔ ∃ text, b.Gives text ∧ Text.EndsAlike field text) ∧
    (b.table.forcesOptional field = true ↔ ∃ text, b.Gives text ∧
      (Text.bytes text).map Text.lowercasedByte <:+
        (Text.bytes field).map Text.lowercasedByte) := by
  rw [OverrideTable.forcesOptional_iff, OverrideTable.Build.forgives_table_iff_gives]
  simp only [Text.endsAlike_iff, Text.endsIn_iff_bytes, and_self]

/-- A letter with an accent has only the form it is written in. -/
example :
    (Build.mk .empty [.suffix "ÉTÉ"]).table.forcesOptional "demi-ÉtÉ" = true ∧
    (Build.mk .empty [.suffix "ÉTÉ"]).table.forcesOptional "demi-été" = false := by
  decide

end ComponentSchema
