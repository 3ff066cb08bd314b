import ComponentSchema.Proofs.CompiledFields
import ComponentSchema.Proofs.OverrideRules

/-! Tables as they are built up. Of a table, compilation sees the suffixes, up to capital and small
letters, and which fields of its component have a row. -/

set_option autoImplicit false

namespace ComponentSchema

namespace OverrideTable

inductive Correction where
  | suffix (text : String)
  | row (row : FieldOverride)

def correct (t : OverrideTable) : Correction → OverrideTable
  | .suffix text => t.addSuffix text
  | .row row => t.addOverride row

theorem forgives_correct_iff {t : OverrideTable} {correction : Correction} {field : String} :
    (t.correct correction).Forgives field ↔
      t.Forgives field ∨ ∃ text, correction = .suffix text ∧ Text.EndsIn field text := by
  cases correction with
  | suffix text => simpa [correct] using forgives_addSuffix_iff
  | row row => simp [correct, addOverride, Forgives]

theorem hasRow_correct_iff {t : OverrideTable} {correction : Correction}
    {component field : String} :
    (t.correct correction).HasRow component field ↔
      t.HasRow component field ∨
        ∃ row, correction = .row row ∧ row.component = component ∧ row.field = field := by
  cases correction with
  | suffix text => simp [correct, addSuffix, HasRow]
  | row row => simp [correct, addOverride, HasRow, or_and_right, exists_or]

/-- A table as it is built: corrections added to a base, one after the other. -/
structure Build where
  base : OverrideTable
  corrections : List Correction

namespace Build

def table (b : Build) : OverrideTable :=
  b.corrections.foldl correct b.base

def HasSuffix (b : Build) (suffix : String) : Prop :=
  ∃ text, (text ∈ b.base.optionalSuffixes ∨ .suffix text ∈ b.corrections) ∧
    Text.lowercased text = Text.lowercased suffix

def HasRow (b : Build) (component field : String) : Prop :=
  ∃ row, (row ∈ b.base.fieldOverrides ∨ .row row ∈ b.corrections) ∧
    row.component = component ∧ row.field = field

variable {b : Build} {component field : String}

/-- What each correction adds to or leaves as it is, is true of the table by the base or by a
correction. -/
theorem table_iff (holds : OverrideTable → Prop) {adds : Correction → Prop}
    (step : ∀ t correction, holds (t.correct correction) ↔ holds t ∨ adds correction) :
    holds b.table ↔ holds b.base ∨ ∃ correction ∈ b.corrections, adds correction := by
  obtain ⟨base, corrections⟩ := b
  induction corrections generalizing base with
  | nil => simp [table]
  | cons first rest ih =>
    have corrected : (Build.mk base (first :: rest)).table =
        (Build.mk (base.correct first) rest).table :=
      rfl
    rw [corrected, ih, step, or_assoc, List.exists_mem_cons_iff]

/-- The text is a suffix of the base, in small letters, or an added one, as it was given. -/
def Gives (b : Build) (text : String) : Prop :=
  text ∈ b.base.optionalSuffixes ∨ .suffix text ∈ b.corrections

theorem forgives_table_iff_gives :
    b.table.Forgives field ↔ ∃ text, b.Gives text ∧ Text.EndsIn field text := by
  rw [table_iff (·.Forgives field) fun _ _ => forgives_correct_iff]
  constructor
  · rintro (⟨text, member, ends⟩ | ⟨_, member, text, rfl, ends⟩)
    · exact ⟨text, .inl member, ends⟩
    · exact ⟨text, .inr member, ends⟩
  · rintro ⟨text, given, ends⟩
    exact given.imp (fun member => ⟨text, member, ends⟩) fun member => ⟨_, member, text, rfl, ends⟩

theorem forgives_table_iff :
    b.table.Forgives field ↔ ∃ suffix, b.HasSuffix suffix ∧ Text.EndsIn field suffix := by
  rw [forgives_table_iff_gives]
  constructor
  · rintro ⟨text, given, ends⟩
    exact ⟨text, ⟨text, given, rfl⟩, ends⟩
  · rintro ⟨suffix, ⟨text, given, same⟩, ends⟩
    rw [← Text.endsIn_lowercased, ← same, Text.endsIn_lowercased] at ends
    exact ⟨text, given, ends⟩

theorem hasRow_table_iff : b.table.HasRow component field ↔ b.HasRow component field := by
  rw [table_iff (·.HasRow component field) fun _ _ => hasRow_correct_iff]
  constructor
  · rintro (⟨row, member, fits⟩ | ⟨_, member, row, rfl, fits⟩)
    · exact ⟨row, .inl member, fits⟩
    · exact ⟨row, .inr member, fits⟩
  · rintro ⟨row, given, fits⟩
    exact given.imp (fun member => ⟨row, member, fits⟩) fun member => ⟨_, member, row, rfl, fits⟩

end Build

end OverrideTable

namespace Compiler

variable {c other : Compiler}

/-- Two compilers that require the same fields and make rows of the same fields. -/
structure SameRules (c other : Compiler) : Prop where
  requires : ∀ name declared, c.requires name declared = other.requires name declared
  hasRows : ∀ name, c.hasRows name = other.hasRows name

theorem fields_congr {params : List Parameter} (each : ∀ p ∈ params, c.field p = other.field p) :
    c.fields [] params = other.fields [] params := by
  have alike : List.Forall₂ Eq params params := List.forall₂_refl params
  apply fields_eq_of_forall₂ alike
  rintro p member _ rfl
  exact each p member

theorem SameRules.field_eq (same : c.SameRules other) (p : Parameter) :
    c.field p = other.field p := by
  induction p using Parameter.induction with
  | step p ih =>
    rw [Compiler.field_eq, Compiler.field_eq, fieldNode, fieldNode, same.requires, same.hasRows,
      fields_congr ih]

theorem SameRules.compile_eq (same : c.SameRules other) (component : c.component = other.component)
    (spec : Spec) : c.compile spec = other.compile spec := by
  rw [compile, compile, compileNormalized, compileNormalized, component,
    fields_congr fun p _ => same.field_eq p]

end Compiler

open OverrideTable (Build)

/-- Tables with the same suffixes, up to capital and small letters, and rows for the same fields of
a component make the same validators of its specs. The order and number of suffixes and rows do not
matter, nor the reasons, nor the rows for other components. -/
theorem compile_eq_of_same_rules {one other : Build} {component : String}
    (suffixes : ∀ suffix, one.HasSuffix suffix ↔ other.HasSuffix suffix)
    (rows : ∀ field, one.HasRow component field ↔ other.HasRow component field) (spec : Spec) :
    (Compiler.mk one.table component).compile spec =
      (Compiler.mk other.table component).compile spec := by
  have same : (Compiler.mk one.table component).SameRules (Compiler.mk other.table component) := by
    constructor
    · intro name declared
      rw [Bool.eq_iff_iff, Compiler.requires_iff, Compiler.requires_iff]
      simp only [Build.forgives_table_iff, suffixes]
    · intro name
      rw [Bool.eq_iff_iff, Compiler.hasRows_iff, Compiler.hasRows_iff]
      simp only [Build.hasRow_table_iff, rows]
  exact same.compile_eq rfl spec

/-- Built from nothing, with a row for another component. -/
def ownTable : Build :=
  { base := .empty
    corrections := [.suffix "HTML", .row ⟨"grid", "cells", .arrayOfRows, ""⟩,
      .row ⟨"table", "rows", .arrayOfRows, "Rows hold cells."⟩, .suffix "Text"] }

def repeatedTable : Build :=
  { base := .standard
    corrections := [.row ⟨"table", "rows", .arrayOfRows, ""⟩, .suffix "tEXT"] }

def tableOfCells : Spec :=
  { params := [
      { name := "rows", type := .array
        params := some [{ name := "innerText", type := .string, required := true }] }] }

theorem compile_eq_of_same_rules_table :
    (∀ suffix, ownTable.HasSuffix suffix ↔ repeatedTable.HasSuffix suffix) ∧
    (∀ field, ownTable.HasRow "table" field ↔ repeatedTable.HasRow "table" field) ∧
    (Compiler.mk ownTable.table "table").compile tableOfCells =
      (Compiler.mk repeatedTable.table "table").compile tableOfCells := by
  have suffixes (suffix : String) : ownTable.HasSuffix suffix ↔ repeatedTable.HasSuffix suffix := by
    have capital : Text.lowercased "HTML" = Text.lowercased "html" := by decide
    have first : Text.lowercased "Text" = Text.lowercased "text" := by decide
    have later : Text.lowercased "tEXT" = Text.lowercased "text" := by decide
    simp only [Build.HasSuffix, ownTable, repeatedTable, OverrideTable.empty,
      OverrideTable.standard, List.mem_cons, List.not_mem_nil,
      OverrideTable.Correction.suffix.injEq, reduceCtorEq, or_false, false_or, or_and_right,
      exists_or, exists_eq_left, capital, first, later]
    rw [or_right_comm, or_self, or_comm]
  have rows (field : String) : ownTable.HasRow "table" field ↔
      repeatedTable.HasRow "table" field := by
    simp [Build.HasRow, ownTable, repeatedTable, OverrideTable.empty, OverrideTable.standard,
      or_and_right, exists_or]
  exact ⟨suffixes, rows, compile_eq_of_same_rules suffixes rows tableOfCells⟩

end ComponentSchema
