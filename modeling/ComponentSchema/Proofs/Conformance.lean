import ComponentSchema.Proofs.CompiledFields
import ComponentSchema.Proofs.ExactValue
import ComponentSchema.Proofs.Findings
import ComponentSchema.Proofs.NormalForm
import ComponentSchema.Proofs.OverrideRules

/-! Conformance of a request body to the parameters of a spec, and that compiled validators accept
exactly the conforming bodies. -/

set_option autoImplicit false

namespace ComponentSchema

open Json (Members Value)

/-- The table makes rows of a parameter: it has a row for the field, and there are nested
parameters. -/
def OverrideTable.MakesRows (t : OverrideTable) (component : String) (p : Parameter) : Prop :=
  t.HasRow component p.name ∧ p.nested ≠ []

mutual

/-- The members of an object conform to a list of parameters: each present one is admitted by its
parameter, and absent ones are not required or are forgiven. -/
inductive Conforms (t : OverrideTable) (component : String) : List Parameter → Members → Prop where
  | intro {params : List Parameter} {members : Members}
      (present : ∀ p ∈ params, ∀ value, members.lookup p.name = some value →
        Admits t component p value)
      (absent : ∀ p ∈ params, members.lookup p.name = none →
        p.required = false ∨ t.Forgives p.name) :
      Conforms t component params members

/-- A parameter admits a value: rows of cells where the table says so, and else a value of its
type. -/
inductive Admits (t : OverrideTable) (component : String) : Parameter → Value → Prop where
  | rows {p : Parameter} {rows : List (List Members)} (made : t.MakesRows component p)
      (cells : ∀ row ∈ rows, ∀ cell ∈ row, Conforms t component p.nested cell) :
      Admits t component p (.array (rows.map fun row => .array (row.map .object)))
  | typed {p : Parameter} {value : Value} (plain : ¬t.MakesRows component p)
      (typed : HasType t component p.type p.nested value) : Admits t component p value

/-- A value has a declared type, whose objects conform to the nested parameters. -/
inductive HasType (t : OverrideTable) (component : String) :
    ParamType → List Parameter → Value → Prop where
  | boolean {nested : List Parameter} (b : Bool) : HasType t component .boolean nested (.boolean b)
  | string {nested : List Parameter} (s : String) : HasType t component .string nested (.string s)
  | block {nested : List Parameter} (s : String) : HasType t component .block nested (.string s)
  | integer {nested : List Parameter} {n : Json.Number} (safe : n.SafeInteger) :
      HasType t component .integer nested (.number n)
  | object {nested : List Parameter} {members : Members}
      (inside : Conforms t component nested members) :
      HasType t component .object nested (.object members)
  | openArray (items : List Value) : HasType t component .array [] (.array items)
  | array {nested : List Parameter} {objects : List Members} (described : nested ≠ [])
      (each : ∀ members ∈ objects, Conforms t component nested members) :
      HasType t component .array nested (.array (objects.map .object))
  | unknown {nested : List Parameter} (tag : String) (value : Value) :
      HasType t component (.unknown tag) nested value

end

theorem Conforms.present {t : OverrideTable} {component : String} {params : List Parameter}
    {members : Members} (conforms : Conforms t component params members) {p : Parameter}
    (member : p ∈ params) {value : Value} (found : members.lookup p.name = some value) :
    Admits t component p value := by
  obtain ⟨present, _⟩ := conforms
  exact present p member value found

theorem Conforms.absent {t : OverrideTable} {component : String} {params : List Parameter}
    {members : Members} (conforms : Conforms t component params members) {p : Parameter}
    (member : p ∈ params) (missing : members.lookup p.name = none) :
    p.required = false ∨ t.Forgives p.name := by
  obtain ⟨_, absent⟩ := conforms
  exact absent p member missing

theorem exists_eq_map_iff {α β : Type} {f : α → β} {P : α → Prop} {items : List β} :
    (∃ sources : List α, items = sources.map f ∧ ∀ source ∈ sources, P source) ↔
      ∀ item ∈ items, ∃ source, item = f source ∧ P source := by
  induction items with
  | nil => simp
  | cons item rest ih =>
    rw [List.forall_mem_cons, ← ih]
    constructor
    · rintro ⟨sources, same, each⟩
      obtain ⟨source, others, rfl, rfl, rfl⟩ := List.map_eq_cons_iff.1 same.symm
      rw [List.forall_mem_cons] at each
      exact ⟨⟨source, rfl, each.1⟩, others, rfl, each.2⟩
    · rintro ⟨⟨source, rfl, holds⟩, others, rfl, each⟩
      exact ⟨source :: others, rfl, List.forall_mem_cons.2 ⟨holds, each⟩⟩

/-! ### Compiled checks -/

namespace Compiler

variable {c : Compiler}

/-- The compiled check of a parameter accepts what the parameter admits. -/
def Faithful (c : Compiler) (p : Parameter) : Prop :=
  ∀ value, (c.field p).node.findings value = [] ↔ Admits c.overrides c.component p value

theorem findings_field_eq_nil_iff {p : Parameter} {members : Members} :
    (c.field p).findings members = [] ↔
      (∀ value, members.lookup p.name = some value → (c.field p).node.findings value = []) ∧
        (members.lookup p.name = none → p.required = false ∨ c.overrides.Forgives p.name) := by
  rw [Field.findings_eq_nil_iff, name_field, field_eq]
  apply and_congr_right
  intro _
  apply imp_congr_right
  intro _
  rw [← Bool.not_eq_true, requires_iff, not_and_or, not_not, Bool.not_eq_true]

theorem findings_object_iff {params : List Parameter} (distinct : (params.map (·.name)).Nodup)
    (faithful : ∀ p ∈ params, c.Faithful p) (value : Value) :
    (openObject (c.fields [] params)).findings value = [] ↔
      ∃ members, value = .object members ∧ Conforms c.overrides c.component params members := by
  rw [openObject, Node.findings_object_eq_nil_iff, c.fields_of_nodup distinct]
  apply exists_congr
  intro members
  apply and_congr_right
  intro _
  rw [List.forall_mem_map]
  constructor
  · intro clean
    apply Conforms.intro
    · intro p member value found
      exact (faithful p member value).1
        ((findings_field_eq_nil_iff.1 (clean p member)).1 value found)
    · intro p member missing
      exact (findings_field_eq_nil_iff.1 (clean p member)).2 missing
  · intro conforms p member
    exact findings_field_eq_nil_iff.2
      ⟨fun value found => (faithful p member value).2 (conforms.present member found),
        conforms.absent member⟩

theorem findings_arrayOf_iff {α : Type} {element : Node} {f : α → Value} {P : α → Prop}
    (accepts : ∀ value, element.findings value = [] ↔ ∃ source, value = f source ∧ P source)
    {value : Value} :
    (Node.array (some element)).findings value = [] ↔
      ∃ sources : List α, value = .array (sources.map f) ∧ ∀ source ∈ sources, P source := by
  simp only [Node.findings_array_eq_nil_iff, accepts, ← exists_eq_map_iff]
  constructor
  · rintro ⟨_, rfl, sources, rfl, each⟩
    exact ⟨sources, rfl, each⟩
  · rintro ⟨sources, rfl, each⟩
    exact ⟨_, rfl, sources, rfl, each⟩

theorem findings_typeNode_iff {nested : List Parameter} (distinct : (nested.map (·.name)).Nodup)
    (faithful : ∀ p ∈ nested, c.Faithful p) (type : ParamType) {value : Value} :
    (typeNode type (c.fields [] nested)).findings value = [] ↔
      HasType c.overrides c.component type nested value := by
  have inside := findings_object_iff distinct faithful
  cases type with
  | boolean =>
    rw [typeNode, Node.findings_boolean_eq_nil_iff]
    constructor
    · rintro ⟨b, rfl⟩
      exact .boolean b
    · intro typed
      cases typed with
      | boolean b => exact ⟨b, rfl⟩
  | string =>
    rw [typeNode, Node.findings_text_eq_nil_iff (.inl rfl)]
    constructor
    · rintro ⟨s, rfl⟩
      exact .string s
    · intro typed
      cases typed with
      | string s => exact ⟨s, rfl⟩
  | block =>
    rw [typeNode, Node.findings_text_eq_nil_iff (.inr rfl)]
    constructor
    · rintro ⟨s, rfl⟩
      exact .block s
    · intro typed
      cases typed with
      | block s => exact ⟨s, rfl⟩
  | integer =>
    simp only [typeNode, Node.findings_integer_eq_nil_iff, Json.Number.isSafeInteger_iff]
    constructor
    · rintro ⟨n, rfl, safe⟩
      exact .integer safe
    · intro typed
      cases typed with
      | integer safe => exact ⟨_, rfl, safe⟩
  | unknown tag => exact iff_of_true Node.findings_any (.unknown tag value)
  | object =>
    rw [typeNode, inside]
    constructor
    · rintro ⟨members, rfl, conforms⟩
      exact .object conforms
    · intro typed
      cases typed with
      | object conforms => exact ⟨_, rfl, conforms⟩
  | array =>
    rw [typeNode]
    by_cases bare : nested = []
    · rw [if_pos (c.isEmpty_fields_iff.2 bare), Node.findings_openArray_eq_nil_iff]
      subst bare
      constructor
      · rintro ⟨items, rfl⟩
        exact .openArray items
      · intro typed
        cases typed with
        | openArray items => exact ⟨items, rfl⟩
        | array described _ => exact absurd rfl described
    · rw [if_neg (mt c.isEmpty_fields_iff.1 bare), findings_arrayOf_iff inside]
      constructor
      · rintro ⟨objects, rfl, each⟩
        exact .array bare each
      · intro typed
        cases typed with
        | openArray items => exact absurd rfl bare
        | array _ each => exact ⟨_, rfl, each⟩

theorem makesRows_iff {p : Parameter} :
    (c.hasRows p.name && !(c.fields [] p.nested).isEmpty) = true ↔
      c.overrides.MakesRows c.component p := by
  rw [Bool.and_eq_true, hasRows_iff, Bool.not_eq_true', ← Bool.not_eq_true, isEmpty_fields_iff]
  rfl

theorem faithful_of_nested {p : Parameter} (distinct : (p.nested.map (·.name)).Nodup)
    (faithful : ∀ q ∈ p.nested, c.Faithful q) : c.Faithful p := by
  intro value
  have inside := findings_object_iff distinct faithful
  rw [field_eq, fieldNode]
  by_cases made : c.overrides.MakesRows c.component p
  · rw [if_pos (makesRows_iff.2 made),
      findings_arrayOf_iff fun value => findings_arrayOf_iff inside]
    constructor
    · rintro ⟨rows, rfl, cells⟩
      exact .rows made cells
    · intro admitted
      cases admitted with
      | rows _ cells => exact ⟨_, rfl, cells⟩
      | typed plain _ => exact absurd made plain
  · rw [if_neg (mt makesRows_iff.1 made), findings_typeNode_iff distinct faithful]
    constructor
    · intro typed
      exact .typed made typed
    · intro admitted
      cases admitted with
      | rows made' _ => exact absurd made' made
      | typed _ typed => exact typed

theorem faithful_of_normal (p : Parameter) (normal : Normal p.nested) : c.Faithful p := by
  induction p using Parameter.induction with
  | step p ih =>
    exact faithful_of_nested normal.distinct fun q member => ih q member (normal.nested member)

end Compiler

/-! ### Accepted bodies -/

theorem Validator.value_validate_eq_ok_iff {v : Validator} {body : Value} {params : Members} :
    (v.validate body).value = .ok params ↔ v.check body = [] ∧ paramsOf body = .ok params := by
  rw [value_validate, accepted]
  cases v.check body <;> cases paramsOf body <;> simp

/-- A compiled validator accepts a body exactly if its parameters conform to the normalized spec,
and gives them back as they are. -/
theorem value_validate_compile_iff (t : OverrideTable) (component : String) (spec : Spec)
    (body : Value) (params : Members) :
    (((Compiler.mk t component).compile spec).validate body).value = .ok params ↔
      ∃ members, body = .object members ∧ members.lookup "params" = some (.object params) ∧
        Conforms t component (normalize spec.params) params := by
  have normal := normal_normalize spec.params
  have faithful : ∀ p ∈ normalize spec.params, (Compiler.mk t component).Faithful p :=
    fun p member => Compiler.faithful_of_normal p (normal.nested member)
  have root := Compiler.findings_object_iff normal.distinct faithful (.object params)
  rw [Validator.value_validate_eq_ok_iff]
  constructor
  · rintro ⟨clean, envelope⟩
    obtain ⟨members, rfl, found⟩ := paramsOf_eq_ok_iff.1 envelope
    rw [Validator.check_of_paramsOf_ok envelope, List.map_eq_nil_iff] at clean
    obtain ⟨_, same, conforms⟩ := root.1 clean
    cases same
    exact ⟨members, rfl, found, conforms⟩
  · rintro ⟨members, rfl, found, conforms⟩
    have envelope := paramsOf_eq_ok_iff.2 ⟨members, rfl, found⟩
    refine ⟨?_, envelope⟩
    rw [Validator.check_of_paramsOf_ok envelope, List.map_eq_nil_iff]
    exact root.2 ⟨params, rfl, conforms⟩

end ComponentSchema
