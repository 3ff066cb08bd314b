import Mathlib.Data.List.Basic
import ComponentSchema.Identifier.Decoding
import ComponentSchema.Proofs.TextBytes

/-! Component names are the texts of one grammar: words over small letters and digits, joined by
single hyphens. -/

set_option autoImplicit false

namespace ComponentSchema

namespace ComponentName

def wordAlphabet : List Char :=
  "abcdefghijklmnopqrstuvwxyz0123456789".toList

structure IsWord (text : List Char) : Prop where
  nonempty : text ≠ []
  spelled : ∀ c ∈ text, c ∈ wordAlphabet

/-- Words joined by single hyphens. -/
inductive IsKebab : List Char → Prop where
  | word {w : List Char} (isWord : IsWord w) : IsKebab w
  | join {w rest : List Char} (isWord : IsWord w) (more : IsKebab rest) : IsKebab (w ++ '-' :: rest)

theorem isWordChar_iff_toNat {c : Char} : isWordChar c = true ↔
    (97 ≤ c.toNat ∧ c.toNat ≤ 122) ∨ (48 ≤ c.toNat ∧ c.toNat ≤ 57) := by
  simp only [isWordChar, Bool.or_eq_true, Bool.and_eq_true, decide_eq_true_eq, Char.le_def,
    UInt32.le_iff_toNat_le]
  rfl

theorem isWordChar_iff {c : Char} : isWordChar c = true ↔ c ∈ wordAlphabet := by
  constructor
  · intro inRange
    have bound : c.toNat < 123 := by
      have ranges := isWordChar_iff_toNat.1 inRange
      omega
    have listed : ∀ c : Char, c.toNat < 123 → isWordChar c = true → c ∈ wordAlphabet :=
      Text.forall_toNat_lt (by decide)
    exact listed c bound inRange
  · have ranged : wordAlphabet.all isWordChar = true := by decide
    exact List.all_eq_true.1 ranged c

theorem hyphen_notMem_wordAlphabet : '-' ∉ wordAlphabet := by
  decide

/-- What the check of a text asks of its characters and its hyphens. -/
structure Passes (text : List Char) : Prop where
  nonempty : text ≠ []
  spelled : ∀ c ∈ text, c ∈ wordAlphabet ∨ c = '-'
  first : text.head? ≠ some '-'
  last : text.getLast? ≠ some '-'
  single : hasDouble '-' text = false

theorem fault?_eq_none_iff {text : List Char} : fault? text = none ↔ Passes text := by
  have spelled : (!text.all fun c => isWordChar c || c = '-') = true ↔
      ¬∀ c ∈ text, c ∈ wordAlphabet ∨ c = '-' := by
    simp [← isWordChar_iff]
  have placed : (text.head? = some '-' || text.getLast? = some '-' || hasDouble '-' text) = true ↔
      ¬(text.head? ≠ some '-' ∧ text.getLast? ≠ some '-' ∧ hasDouble '-' text = false) := by
    grind
  simp only [fault?, ite_eq_iff, spelled, placed, List.isEmpty_iff, reduceCtorEq, and_false,
    false_or, not_not, and_true]
  exact ⟨fun ⟨nonempty, spelled, first, last, single⟩ => ⟨nonempty, spelled, first, last, single⟩,
    fun passes => ⟨passes.nonempty, passes.spelled, passes.first, passes.last, passes.single⟩⟩

theorem hasDouble_iff {c : Char} {text : List Char} :
    hasDouble c text = true ↔ [c, c] <:+: text := by
  induction text with
  | nil => simp [hasDouble]
  | cons a text ih =>
    cases text with
    | nil => simp [hasDouble, List.infix_cons_iff]
    | cons b rest =>
      rw [hasDouble, Bool.or_eq_true, ih]
      refine .trans ?_ List.infix_cons_iff.symm
      simp only [List.cons_prefix_cons, List.nil_prefix, and_true, Bool.and_eq_true,
        decide_eq_true_eq, eq_comm (a := c)]

/-! ### From the grammar to the check -/

theorem hasDouble_cons_of_ne {c d : Char} (different : c ≠ d) (text : List Char) :
    hasDouble d (c :: text) = hasDouble d text := by
  cases text <;> simp [hasDouble, different]

theorem hasDouble_append_of_notMem {c : Char} {front : List Char} (absent : c ∉ front)
    (text : List Char) :
    hasDouble c (front ++ text) = hasDouble c text := by
  induction front with
  | nil => rfl
  | cons a front ih =>
    obtain ⟨different, absent⟩ := List.ne_and_not_mem_of_not_mem_cons absent
    rw [List.cons_append, hasDouble_cons_of_ne different.symm, ih absent]

theorem IsWord.hyphen_notMem {w : List Char} (isWord : IsWord w) : '-' ∉ w :=
  fun member => hyphen_notMem_wordAlphabet (isWord.spelled _ member)

theorem IsKebab.passes {text : List Char} (kebab : IsKebab text) : Passes text := by
  induction kebab with
  | @word w isWord =>
    have absent := isWord.hyphen_notMem
    exact {
      nonempty := isWord.nonempty
      spelled c member := .inl (isWord.spelled c member)
      first hyphen := absent (List.mem_of_head? hyphen)
      last hyphen := absent (List.mem_of_getLast? hyphen)
      single := by
        have alone := hasDouble_append_of_notMem absent []
        rwa [List.append_nil] at alone }
  | @join w rest isWord _ ih =>
    have absent := isWord.hyphen_notMem
    obtain ⟨a, w, rfl⟩ := List.exists_cons_of_ne_nil isWord.nonempty
    obtain ⟨b, rest, rfl⟩ := List.exists_cons_of_ne_nil ih.nonempty
    exact {
      nonempty := by simp
      spelled c member := by
        rcases List.mem_append.1 member with before | after
        · exact .inl (isWord.spelled c before)
        · rcases List.mem_cons.1 after with rfl | after
          · exact .inr rfl
          · exact ih.spelled c after
      first := by
        have first : a ≠ '-' := fun same => absent (same ▸ List.mem_cons_self)
        simpa using first
      last := by
        rw [List.append_cons, List.getLast?_append_of_ne_nil _ (List.cons_ne_nil b rest)]
        exact ih.last
      single := by
        have first : b ≠ '-' := by simpa using ih.first
        rw [hasDouble_append_of_notMem absent, hasDouble, ih.single]
        simp [first] }

/-! ### From the check to the grammar -/

theorem IsKebab.cons {c : Char} {text : List Char} (spelled : c ∈ wordAlphabet)
    (kebab : IsKebab text) :
    IsKebab (c :: text) := by
  have extended {w : List Char} (isWord : IsWord w) : IsWord (c :: w) :=
    ⟨by simp, by simpa [spelled] using isWord.spelled⟩
  cases kebab with
  | word isWord => exact .word (extended isWord)
  | join isWord more => exact .join (extended isWord) more

theorem isWord_singleton {c : Char} (spelled : c ∈ wordAlphabet) : IsWord [c] :=
  ⟨by simp, by simpa using spelled⟩

theorem hasDouble_of_append {c : Char} {front text : List Char}
    (single : hasDouble c (front ++ text) = false) : hasDouble c text = false := by
  rw [Bool.eq_false_iff, ne_eq, hasDouble_iff] at single ⊢
  exact fun double => single (double.trans (List.suffix_append front text).isInfix)

theorem Passes.drop (front : List Char) {text : List Char} (passes : Passes (front ++ text))
    (nonempty : text ≠ []) (first : text.head? ≠ some '-') : Passes text where
  nonempty := nonempty
  spelled c member := passes.spelled c (List.mem_append_right front member)
  first := first
  last := by
    have last := passes.last
    rwa [List.getLast?_append_of_ne_nil front nonempty] at last
  single := hasDouble_of_append passes.single

theorem Passes.isKebab : {text : List Char} → Passes text → IsKebab text
  | [], passes => absurd rfl passes.nonempty
  | c :: text, passes => by
    have first : c ≠ '-' := by simpa using passes.first
    have spelled := (passes.spelled c List.mem_cons_self).resolve_right first
    match text with
    | [] => exact .word (isWord_singleton spelled)
    | d :: rest =>
      by_cases hyphen : d = '-'
      · subst hyphen
        have nonempty : rest ≠ [] := fun empty => passes.last (by simp [empty])
        have single : rest.head? ≠ some '-' := by
          intro double
          obtain ⟨rest', rfl⟩ := List.head?_eq_some_iff.1 double
          have single := passes.single
          simp [hasDouble] at single
        exact .join (isWord_singleton spelled) (passes.drop [c, '-'] nonempty single).isKebab
      · exact (passes.drop [c] (by simp) (by simpa using hyphen)).isKebab.cons spelled

theorem fault?_eq_none_iff_isKebab {text : List Char} : fault? text = none ↔ IsKebab text :=
  fault?_eq_none_iff.trans ⟨Passes.isKebab, IsKebab.passes⟩

theorem exists_ofString_iff {text : String} :
    (∃ name, ofString text = .ok name) ↔ IsKebab text.toList := by
  rw [← fault?_eq_none_iff_isKebab]
  constructor
  · rintro ⟨name, accepted⟩
    rw [← ofString_ok_iff.1 accepted]
    exact name.valid
  · exact fun valid => ⟨⟨text, valid⟩, ofString_ok_iff.2 rfl⟩

theorem ofJson_string_eq_ok_iff {text : String} {name : ComponentName} :
    ofJson (.string text) = .ok name ↔ ofString text = .ok name := by
  have read : ofJson (.string text) = (ofString text).mapError .invalid := rfl
  rw [read]
  cases ofString text <;> simp [Except.mapError]

/-! ### Bytes -/

def isNameByte (b : UInt8) : Bool :=
  (97 ≤ b && b ≤ 122) || (48 ≤ b && b ≤ 57) || b = 45

theorem isNameByte_iff {b : UInt8} : isNameByte b = true ↔
    (97 ≤ b.toNat ∧ b.toNat ≤ 122) ∨ (48 ≤ b.toNat ∧ b.toNat ≤ 57) ∨ b.toNat = 45 := by
  simp [isNameByte, UInt8.le_iff_toNat_le, ← UInt8.toNat_inj, or_assoc]

/-- A character passes exactly if all its bytes do. Beyond the first 128 characters none does, and
neither does any of its bytes. -/
theorem all_utf8EncodeChar (c : Char) :
    (String.utf8EncodeChar c).all isNameByte = (isWordChar c || c = '-') := by
  have hyphen : c = '-' ↔ c.toNat = 45 := Char.toNat_inj.symm
  rw [Bool.eq_iff_iff, Bool.or_eq_true, isWordChar_iff_toNat, decide_eq_true_iff, hyphen, or_assoc]
  by_cases low : c.toNat < 128
  · have same : c.val.toUInt8.toNat = c.toNat := by
      rw [UInt32.toNat_toUInt8]
      exact Nat.mod_eq_of_lt (Nat.lt_trans low (by decide))
    rw [Text.utf8EncodeChar_of_lt low, List.all_cons, List.all_nil, Bool.and_true, isNameByte_iff,
      same]
  · refine iff_of_false ?_ (by omega)
    intro passes
    obtain ⟨b, member⟩ := List.exists_mem_of_ne_nil _ (String.utf8EncodeChar_ne_nil (c := c))
    have high := Text.le_of_mem_utf8EncodeChar (Nat.le_of_not_lt low) member
    have ranges := isNameByte_iff.1 (List.all_eq_true.1 passes b member)
    omega

theorem all_bytes (text : String) :
    text.toUTF8.data.toList.all isNameByte = text.toList.all fun c => isWordChar c || c = '-' := by
  change (Text.bytes text).all isNameByte = _
  rw [Text.bytes_eq_flatMap, List.all_flatMap]
  exact congrArg text.toList.all (funext all_utf8EncodeChar)

/-- The first fault of a component name, found in its bytes one by one. -/
def faultOfBytes? (text : String) : Option IdentifierFault :=
  if text.isEmpty then some .empty
  else if !text.toUTF8.data.toList.all isNameByte then some .character
  else if text.startsWith '-' || text.endsWith '-' || text.contains "--" then some .hyphens
  else none

theorem faultOfBytes?_eq (text : String) : faultOfBytes? text = fault? text.toList := by
  have double : text.contains "--" = hasDouble '-' text.toList := by
    rw [Bool.eq_iff_iff, String.contains_string_iff, hasDouble_iff]
    rfl
  have empty : text.isEmpty = text.toList.isEmpty := by
    rw [Bool.eq_iff_iff, String.isEmpty_iff, List.isEmpty_iff, String.toList_eq_nil_iff]
  simp only [faultOfBytes?, fault?, all_bytes, double, empty, String.startsWith_char_eq_head?,
    String.endsWith_char_eq_getLast?, beq_eq_decide]

/-- A text is accepted as a component name exactly if it is words of small letters and digits joined
by single hyphens, and so is a JSON string; the name is the text as it stands. It makes no
difference whether the characters are tested whole or byte by byte. -/
theorem accepts_kebab_case (text : String) :
    ((∃ name, ofString text = .ok name) ↔ IsKebab text.toList) ∧
    ((∃ name, ofJson (.string text) = .ok name) ↔ IsKebab text.toList) ∧
    (∀ name, ofString text = .ok name ↔ name.text = text) ∧
    (∀ name, ofJson (.string text) = .ok name ↔ name.text = text) ∧
    faultOfBytes? text = fault? text.toList := by
  refine ⟨exists_ofString_iff, ?_, fun _ => ofString_ok_iff, fun _ => ?_, faultOfBytes?_eq text⟩
  · simp only [ofJson_string_eq_ok_iff, exists_ofString_iff]
  · rw [ofJson_string_eq_ok_iff, ofString_ok_iff]

end ComponentName

end ComponentSchema
