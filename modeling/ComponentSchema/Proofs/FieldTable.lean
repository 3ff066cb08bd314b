import ComponentSchema.Proofs.CompiledFields
import ComponentSchema.Proofs.NormalForm

/-! Compiled objects as tables of the parameters they are compiled from, at every depth of a
validator. -/

set_option autoImplicit false

namespace ComponentSchema

inductive Node.Contains (root : Node) : Node → Prop where
  | root : Contains root root
  | field {declared : List (Field Node)} {allowUnknown : Bool} {f : Field Node}
      (here : Contains root (.object declared allowUnknown)) (member : f ∈ declared) :
      Contains root f.node
  | element {element : Node} (here : Contains root (.array (some element))) : Contains root element

/-- The parameters that the nodes of a tree are compiled from. Those of the root are given; below a
field they are the ones nested in the last parameter of its name, and arrays are passed through. -/
inductive Describes (params : List Parameter) (root : Node) : List Parameter → Node → Prop where
  | root : Describes params root params root
  | field {described : List Parameter} {declared : List (Field Node)} {allowUnknown : Bool}
      {f : Field Node} {p : Parameter}
      (here : Describes params root described (.object declared allowUnknown))
      (member : f ∈ declared)
      (last : lastNamed? described f.name = some p) : Describes params root p.nested f.node
  | element {described : List Parameter} {element : Node}
      (here : Describes params root described (.array (some element))) :
      Describes params root described element

namespace Describes

variable {c : Compiler} {params described : List Parameter} {n : Node}

theorem within (here : Describes params (c.compileNormalized params).params.node described n) :
    (Compiler.openObject (c.fields [] described)).Within n := by
  induction here with
  | root => exact .self
  | @field described declared allowUnknown f p _ member last ih =>
    cases ih with
    | self =>
      obtain ⟨q, last', rfl⟩ := c.exists_last_of_mem_fields member
      cases last.symm.trans last'
      rw [Compiler.field_eq]
      exact c.within_fieldNode ..
  | element _ ih =>
    cases ih with
    | array below => exact below

/-- No node is left out: every field has a last parameter of its name. -/
theorem of_contains (inside : (c.compileNormalized params).params.node.Contains n) :
    ∃ described, Describes params (c.compileNormalized params).params.node described n := by
  induction inside with
  | root => exact ⟨params, .root⟩
  | field _ member ih =>
    obtain ⟨described, here⟩ := ih
    cases here.within with
    | self =>
      obtain ⟨p, last, _⟩ := c.exists_last_of_mem_fields member
      exact ⟨p.nested, here.field member last⟩
  | element _ ih =>
    obtain ⟨described, here⟩ := ih
    exact ⟨described, here.element⟩

theorem normal {root : Node} (here : Describes params root described n) (normal : Normal params) :
    Normal described := by
  induction here with
  | root => exact normal
  | field _ _ last ih => exact ih.nested (mem_of_lastNamed? last)
  | element _ ih => exact ih

end Describes

/-- Every node is compiled from some parameters. At every depth the fields of an object have the
names of its parameters in the order of their first occurrence, and each is the compilation of the
last parameter of its name; the object is open. Of a spec, whose parameters are normalized, every
parameter gives its own field. -/
theorem fields_of_described (c : Compiler) :
    (∀ (params : List Parameter) (n : Node), (c.compileNormalized params).params.node.Contains n →
      ∃ described, Describes params (c.compileNormalized params).params.node described n) ∧
    (∀ (params described : List Parameter) (declared : List (Field Node)) (allowUnknown : Bool),
      Describes params (c.compileNormalized params).params.node described
        (.object declared allowUnknown) →
      declared.map (·.name) = (described.map (·.name)).eraseDups ∧
      (∀ f ∈ declared, ∃ p, lastNamed? described f.name = some p ∧ f = c.field p) ∧
      allowUnknown = true) ∧
    ∀ (spec : Spec) (described : List Parameter) (declared : List (Field Node))
      (allowUnknown : Bool),
      Describes (normalize spec.params) (c.compile spec).params.node described
        (.object declared allowUnknown) →
      declared = described.map c.field ∧ allowUnknown = true := by
  refine ⟨fun params n => Describes.of_contains, ?_, ?_⟩
  · intro params described declared allowUnknown here
    cases here.within with
    | self => exact ⟨c.names_fields described, fun _ => c.exists_last_of_mem_fields, rfl⟩
  · intro spec described declared allowUnknown here
    have distinct := (here.normal (normal_normalize spec.params)).distinct
    cases here.within with
    | self => exact ⟨c.fields_of_nodup distinct, rfl⟩

def repeatedCells : List Parameter :=
  [{ name := "text", type := .string }, { name := "class", type := .string },
   { name := "text", type := .boolean, required := true }]

def repeatedRows : List Parameter :=
  [{ name := "rows", type := .string, required := true }, { name := "id", type := .string },
   { name := "rows", type := .array, params := some repeatedCells }]

theorem fields_of_described_repeatedRows :
    Describes repeatedRows
      ((Compiler.mk .standard "table").compileNormalized repeatedRows).params.node
      repeatedCells
        (.object [⟨"text", false, .leaf .boolean⟩, ⟨"class", false, .leaf .string⟩] true) ∧
    ["text", "class"] = (repeatedCells.map (·.name)).eraseDups ∧
    ∃ p, lastNamed? repeatedCells "text" = some p ∧
      ⟨"text", false, .leaf .boolean⟩ = (Compiler.mk .standard "table").field p := by
  have top : Describes repeatedRows
      ((Compiler.mk .standard "table").compileNormalized repeatedRows).params.node repeatedRows _ :=
        .root
  have cells := (top.field List.mem_cons_self rfl).element.element
  obtain ⟨names, last, -⟩ := (fields_of_described (Compiler.mk .standard "table")).2.1 _ _ _ _ cells
  exact ⟨cells, names, last _ List.mem_cons_self⟩

end ComponentSchema
