import ComponentSchema.Compilation

/-! What a table of overrides says about a field, in terms of its suffixes and rows. -/

set_option autoImplicit false

namespace ComponentSchema

/-- One text is the end of the other, up to capital and small letters from A to Z. -/
def Text.EndsIn (text suffix : String) : Prop :=
  ∃ front back, text.toList = front ++ back ∧
    back.map Char.toLower = suffix.toList.map Char.toLower

theorem Text.endsIn_iff {text suffix : String} :
    EndsIn text suffix ↔ (lowercased suffix).toList <:+ (lowercased text).toList := by
  rw [toList_lowercased, toList_lowercased]
  constructor
  · rintro ⟨front, back, split, same⟩
    rw [split, List.map_append, same]
    exact List.suffix_append _ _
  · rintro ⟨lowered, split⟩
    obtain ⟨front, back, whole, _, same⟩ := List.map_eq_append_iff.1 split.symm
    exact ⟨front, back, whole, same⟩

instance (text suffix : String) : Decidable (Text.EndsIn text suffix) :=
  decidable_of_iff _ Text.endsIn_iff.symm

theorem Text.endsIn_lowercased {text suffix : String} :
    EndsIn text (lowercased suffix) ↔ EndsIn text suffix := by
  rw [endsIn_iff, endsIn_iff, lowercased_lowercased]

namespace OverrideTable

/-- Some suffix of the table ends the name. -/
def Forgives (t : OverrideTable) (field : String) : Prop :=
  ∃ suffix ∈ t.optionalSuffixes, Text.EndsIn field suffix

def HasRow (t : OverrideTable) (component field : String) : Prop :=
  ∃ row ∈ t.fieldOverrides, row.component = component ∧ row.field = field

theorem forcesOptional_iff {t : OverrideTable} {field : String} :
    t.forcesOptional field = true ↔ t.Forgives field := by
  simp only [forcesOptional, Forgives, List.any_eq_true, List.isSuffixOf_iff_suffix,
    Text.endsIn_iff]
  constructor
  · rintro ⟨suffix, member, ends⟩
    exact ⟨suffix, member, by rwa [t.lowercase suffix member]⟩
  · rintro ⟨suffix, member, ends⟩
    exact ⟨suffix, member, by rwa [t.lowercase suffix member] at ends⟩

theorem forgives_addSuffix_iff {t : OverrideTable} {suffix field : String} :
    (t.addSuffix suffix).Forgives field ↔ t.Forgives field ∨ Text.EndsIn field suffix := by
  simp only [Forgives, addSuffix, List.mem_append, List.mem_singleton, or_and_right, exists_or,
    exists_eq_left, Text.endsIn_lowercased]

theorem transform?_eq_some_iff {t : OverrideTable} {component field : String} :
    t.transform? component field = some .arrayOfRows ↔ t.HasRow component field := by
  unfold transform? HasRow
  rw [Option.map_eq_some_iff]
  constructor
  · rintro ⟨row, found, _⟩
    have member := List.mem_of_find?_eq_some found
    have fits := List.find?_some found
    simp only [Bool.and_eq_true, decide_eq_true_eq] at fits
    exact ⟨row, List.mem_reverse.1 member, fits⟩
  · rintro ⟨row, member, fits⟩
    cases found : t.fieldOverrides.reverse.find? fun row =>
        row.component = component && row.field = field with
    | none =>
      have unfit := List.find?_eq_none.1 found row (List.mem_reverse.2 member)
      simp [fits] at unfit
    | some last => exact ⟨last, rfl, by cases last.transform; rfl⟩

end OverrideTable

namespace Compiler

variable {c : Compiler}

theorem hasRows_iff {name : String} :
    c.hasRows name = true ↔ c.overrides.HasRow c.component name := by
  rw [hasRows, beq_iff_eq, OverrideTable.transform?_eq_some_iff]

theorem requires_iff {name : String} {declared : Bool} :
    c.requires name declared = true ↔ declared = true ∧ ¬c.overrides.Forgives name := by
  rw [requires, Bool.and_eq_true, Bool.not_eq_true', ← Bool.not_eq_true,
    OverrideTable.forcesOptional_iff]

end Compiler

end ComponentSchema
