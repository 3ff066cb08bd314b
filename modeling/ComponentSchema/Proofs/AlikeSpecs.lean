import Mathlib.Data.List.Forall2
import ComponentSchema.Proofs.CompiledFields
import ComponentSchema.Proofs.NormalForm
import ComponentSchema.Proofs.OverrideRules

/-! Specs that differ only in what compilation does not look at: descriptions, examples, the tags of
types that are not known, and parameters nested where nothing is compiled from them. -/

set_option autoImplicit false

namespace ComponentSchema

/-! ### Final names -/

/-- The name that a parameter has once dotted names are taken apart: the end of its path. -/
def finalName (name : String) : String :=
  (segments name).getLast (segments_ne_nil name)

theorem Undotted.finalName_eq {name : String} (undotted : Undotted name) :
    finalName name = name := by
  simp [finalName, undotted.segments_eq]

theorem Joins.finalName_eq {key rest name : String} (joined : Joins key rest name) :
    finalName name = finalName rest := by
  simp only [finalName, joined.segments_eq]
  exact List.getLast_cons (segments_ne_nil rest)

theorem finalName_memberName {key name inner : String} (grouped : groupKey name = key)
    (kept : memberName key name = some inner) : finalName inner = finalName name := by
  rcases undotted_or_joins name with undotted | ⟨first, rest, joined⟩
  · rw [← grouped, undotted.groupKey_eq, memberName_self] at kept
    cases kept
  · rw [← grouped, joined.groupKey_eq, joined.memberName_eq] at kept
    split at kept
    · cases kept
    · cases kept
      exact joined.finalName_eq.symm

/-! ### Parameters that count for the same -/

inductive ParamType.Alike : ParamType → ParamType → Prop where
  | same (type : ParamType) : Alike type type
  | unknown (tag tag' : String) : Alike (.unknown tag) (.unknown tag')

/-- Nothing is compiled from what is nested in the parameter: its type is scalar or not known, and
the table has no row for its final name. -/
structure OverrideTable.Ignores (t : OverrideTable) (component : String) (p : Parameter) :
    Prop where
  noObject : p.type ≠ .object
  noArray : p.type ≠ .array
  noRow : ¬t.HasRow component (finalName p.name)

/-- Two parameters differ at most in their descriptions, in the tags of types that are not known,
and in what is nested where that is ignored. No nested parameters are the same as an empty list. -/
inductive Parameter.Alike (t : OverrideTable) (component : String) :
    Parameter → Parameter → Prop where
  | intro {p q : Parameter} (name : p.name = q.name) (type : p.type.Alike q.type)
      (required : p.required = q.required)
      (nested : ¬t.Ignores component p → List.Forall₂ (Alike t component) p.nested q.nested) :
      Alike t component p q

/-- Two specs have parameters that are alike; the examples do not matter. -/
def Spec.Alike (t : OverrideTable) (component : String) (one other : Spec) : Prop :=
  List.Forall₂ (Parameter.Alike t component) one.params other.params

section

variable {t : OverrideTable} {component : String}

theorem Parameter.Alike.name {p q : Parameter} : p.Alike t component q → p.name = q.name
  | .intro name _ _ _ => name

theorem Parameter.Alike.rename {p q : Parameter} (alike : p.Alike t component q) {inner : String}
    (final : finalName inner = finalName p.name) :
    Alike t component { p with name := inner } { q with name := inner } := by
  obtain ⟨_, type, required, nested⟩ := alike
  refine .intro rfl type required fun counts => nested fun ignored => counts ?_
  exact ⟨ignored.noObject, ignored.noArray, final ▸ ignored.noRow⟩

/-! ### Normalization -/

structure Group.Alike (t : OverrideTable) (component : String) (g h : Group) : Prop where
  key : g.key = h.key
  first : g.first.Alike t component h.first
  further : List.Forall₂ (Parameter.Alike t component) g.further h.further

theorem forall₂_filter_key {params others : List Parameter} (pred : String → Bool)
    (alike : List.Forall₂ (Parameter.Alike t component) params others) :
    List.Forall₂ (Parameter.Alike t component) (params.filter (pred ·.name))
      (others.filter (pred ·.name)) :=
  List.rel_filter (fun _ _ alike => by simp only [alike.name]) alike

theorem forall₂_groups {params others : List Parameter}
    (alike : List.Forall₂ (Parameter.Alike t component) params others) :
    List.Forall₂ (Group.Alike t component) (groups params) (groups others) := by
  induction params using keyedInduction generalizing others with
  | nil =>
    cases alike
    exact .nil
  | cons p rest ih =>
    cases alike with
    | cons first rest =>
      rw [groups_cons, groups_cons, ← first.name]
      exact .cons ⟨rfl, first,
        forall₂_filter_key (fun name => groupKey name = groupKey p.name) rest⟩
        (ih (forall₂_filter_key (fun name => groupKey name ≠ groupKey p.name) rest))

namespace Group.Alike

variable {g h : Group}

theorem isPlain_eq (alike : g.Alike t component h) : h.isPlain = g.isPlain := by
  have alone : h.further.isEmpty = g.further.isEmpty := by
    rw [Bool.eq_iff_iff, List.isEmpty_iff_length_eq_zero, List.isEmpty_iff_length_eq_zero,
      alike.further.length_eq]
  rw [isPlain, isPlain, alone, ← alike.key, ← alike.first.name]

theorem kept (alike : g.Alike t component h) (grouped : ∀ p ∈ g.members, groupKey p.name = g.key) :
    List.Forall₂ (Parameter.Alike t component) g.kept h.kept := by
  have members := (List.forall₂_and_left _ _).2 ⟨grouped, .cons alike.first alike.further⟩
  unfold Group.kept
  rw [← alike.key]
  refine List.rel_filterMap ?_ members
  rintro p q ⟨grouped, alike⟩
  simp only [← alike.name]
  cases kept : memberName g.key p.name with
  | none => exact .none
  | some inner => exact .some (alike.rename (finalName_memberName grouped kept))

end Group.Alike

theorem Parameter.nested_map_normalize (p : Parameter) :
    { p with params := p.params.map normalize }.nested = normalize p.nested := by
  unfold nested
  cases p.params with
  | none =>
    rw [normalize_eq]
    rfl
  | some inner => rfl

theorem Group.Alike.rebuild {g h : Group} (alike : g.Alike t component h)
    (grouped : ∀ p ∈ g.members, groupKey p.name = g.key)
    (below : ∀ others, List.Forall₂ (Parameter.Alike t component) g.inner others →
      List.Forall₂ (Parameter.Alike t component) (normalize g.inner) (normalize others)) :
    (g.rebuild (normalize g.inner)).Alike t component (h.rebuild (normalize h.inner)) := by
  cases plain : g.isPlain with
  | true =>
    have inner : g.inner = g.first.nested := if_pos plain
    obtain ⟨name, type, required, nested⟩ := alike.first
    rw [rebuild_plain plain, rebuild_plain (alike.isPlain_eq.trans plain)]
    refine .intro name type required fun counts => ?_
    have alike := nested fun ignored => counts ⟨ignored.noObject, ignored.noArray, ignored.noRow⟩
    rw [Parameter.nested_map_normalize, Parameter.nested_map_normalize, ← inner]
    exact below _ (inner ▸ alike)
  | false =>
    have inner : g.inner = g.kept := by simp [Group.inner, plain]
    rw [rebuild_made plain, rebuild_made (alike.isPlain_eq.trans plain), ← inner]
    exact .intro alike.key (.same _) rfl fun _ => below _ (inner ▸ alike.kept grouped)

theorem forall₂_normalize {params others : List Parameter}
    (alike : List.Forall₂ (Parameter.Alike t component) params others) :
    List.Forall₂ (Parameter.Alike t component) (normalize params) (normalize others) := by
  induction params using normalizeInduction generalizing others with
  | step params ih =>
    rw [normalize_eq, normalize_eq, List.forall₂_map_left_iff, List.forall₂_map_right_iff]
    have each := (List.forall₂_and_left _ _).2 ⟨fun g member => member, forall₂_groups alike⟩
    apply each.imp
    intro g h ⟨member, alike⟩
    have grouped : ∀ p ∈ g.members, groupKey p.name = g.key :=
      fun p among => ((mem_members_iff member).1 among).2
    exact alike.rebuild grouped fun others => ih g member

end

/-! ### Compilation -/

namespace Compiler

variable {c : Compiler}

theorem typeNode_eq_of_alike {type type' : ParamType} (alike : type.Alike type')
    (fields : List (Field Node)) : typeNode type fields = typeNode type' fields := by
  cases alike <;> rfl

theorem typeNode_eq_of_flat {type : ParamType} (noObject : type ≠ .object) (noArray : type ≠ .array)
    (fields fields' : List (Field Node)) : typeNode type fields = typeNode type fields' := by
  cases type with
  | object => exact absurd rfl noObject
  | array => exact absurd rfl noArray
  | _ => rfl

theorem fieldNode_eq_of_ignores {p : Parameter} (ignored : c.overrides.Ignores c.component p)
    (undotted : Undotted p.name) (fields fields' : List (Field Node)) :
    c.fieldNode p.name p.type fields = c.fieldNode p.name p.type fields' := by
  have noRow : c.hasRows p.name = false := by
    rw [← Bool.not_eq_true, hasRows_iff, ← undotted.finalName_eq]
    exact ignored.noRow
  simp only [fieldNode, noRow, Bool.false_and]
  exact typeNode_eq_of_flat ignored.noObject ignored.noArray fields fields'

theorem field_eq_of_alike {p q : Parameter} (alike : p.Alike c.overrides c.component q)
    (undotted : Undotted p.name) (normal : Normal p.nested) : c.field p = c.field q := by
  induction p using Parameter.induction generalizing q with
  | step p ih =>
    obtain ⟨name, type, required, nested⟩ := alike
    have below : c.fieldNode p.name p.type (c.fields [] p.nested) =
        c.fieldNode p.name p.type (c.fields [] q.nested) := by
      by_cases ignored : c.overrides.Ignores c.component p
      · exact fieldNode_eq_of_ignores ignored undotted _ _
      · rw [fields_eq_of_forall₂ (nested ignored)]
        intro r member r' alike
        exact ih r member alike (normal.undotted r member) (normal.nested member)
    rw [field_eq, field_eq, below, ← name, ← required]
    simp only [fieldNode, typeNode_eq_of_alike type]

end Compiler

/-- Compilation does not tell apart specs that are alike under its table, for its component. -/
theorem compile_eq_of_alike (c : Compiler) {one other : Spec}
    (alike : one.Alike c.overrides c.component other) : c.compile one = c.compile other := by
  have normal := normal_normalize one.params
  have fields : c.fields [] (normalize one.params) = c.fields [] (normalize other.params) := by
    apply Compiler.fields_eq_of_forall₂ (forall₂_normalize alike)
    intro p member q alike
    exact Compiler.field_eq_of_alike alike (normal.undotted p member) (normal.nested member)
  rw [Compiler.compile, Compiler.compile, Compiler.compileNormalized, Compiler.compileNormalized,
    fields]

/-- A documented table. What is nested in the hint is ignored; what is nested in the rows is not. -/
def documentedTable : Spec :=
  { params := [
      { name := "hint.text", type := .string, description := some "Shown above the table.",
        params := some [{ name := "lang", type := .string }] },
      { name := "body.rows", type := .string, params := some [
          { name := "on", type := .unknown "date", description := some "When it took place." }] }]
    examples := [{ name := "empty" }] }

def bareTable : Spec :=
  { params := [
      { name := "hint.text", type := .string },
      { name := "body.rows", type := .string, params := some [
          { name := "on", type := .unknown "", params := some [] }] }] }

theorem compile_eq_of_alike_table :
    documentedTable.Alike .standard "table" bareTable ∧
    (Compiler.mk .standard "table").compile documentedTable =
      (Compiler.mk .standard "table").compile bareTable := by
  have hint : OverrideTable.standard.Ignores "table" documentedTable.params.head! := by
    have joined : Joins "hint" "text" "hint.text" := ⟨by decide, by decide, by decide⟩
    have final : finalName documentedTable.params.head!.name = "text" :=
      joined.finalName_eq.trans (Undotted.finalName_eq (.inl (by decide)))
    refine ⟨by decide, by decide, ?_⟩
    rw [final]
    simp [OverrideTable.HasRow, OverrideTable.standard]
  have alike : documentedTable.Alike .standard "table" bareTable := by
    refine .cons (.intro rfl (.same _) rfl fun counts => absurd hint counts) (.cons ?_ .nil)
    refine .intro rfl (.same _) rfl fun _ => .cons ?_ .nil
    exact .intro rfl (.unknown _ _) rfl fun _ => .nil
  exact ⟨alike, compile_eq_of_alike _ alike⟩

end ComponentSchema
