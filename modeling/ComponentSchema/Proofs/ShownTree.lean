import ComponentSchema.Command
import ComponentSchema.Proofs.FieldTable
import ComponentSchema.Proofs.PrettyText

/-! The JSON form of a validator tells it from every other one, as a value and as the text that is
shown. -/

set_option autoImplicit false

namespace ComponentSchema

open Json (Value)

namespace Json.Value

mutual

/-- The value with the members of all objects sorted by key, for comparisons that do not depend on
their order. -/
def sorted : Value → Value
  | .array items => .array (sortedItems items)
  | .object members => .record (sortedMembers members)
  | v => v

def sortedItems : List Value → List Value
  | [] => []
  | item :: rest => item.sorted :: sortedItems rest

def sortedMembers : List (String × Value) → Members
  | [] => []
  | (key, value) :: rest => (key, value.sorted) :: sortedMembers rest

end

end Json.Value

theorem LeafKind.eq_of_name {kind other : LeafKind} (same : kind.name = other.name) :
    kind = other := by
  cases kind <;> cases other <;> first | rfl | simp [name] at same

/-! ### Values -/

theorem Node.sorted_toJson_leaf (kind : LeafKind) :
    (Node.leaf kind).toJson.sorted = .object [("leaf", .string kind.name)] := by
  rw [toJson]
  rfl

theorem Node.sorted_toJson_object (declared : List (Field Node)) (allowUnknown : Bool) :
    (Node.object declared allowUnknown).toJson.sorted =
      .object [("object", .object [("allow_unknown", .boolean allowUnknown),
        ("fields", .array (Value.sortedItems (fieldsToJson declared)))])] := by
  rw [toJson]
  rfl

theorem Node.sorted_toJson_array (element : Option Node) :
    (Node.array element).toJson.sorted = .object [("array", .object
      [("element", element.elim .null fun n => n.toJson.sorted)])] := by
  cases element <;> rw [toJson] <;> rfl

theorem Field.sorted_toJson (f : Field Node) :
    f.toJson.sorted = .object [("name", .string f.name), ("node", f.node.toJson.sorted),
      ("required", .boolean f.required)] :=
  rfl

theorem sortedItems_fieldsToJson_cons (f : Field Node) (rest : List (Field Node)) :
    Value.sortedItems (fieldsToJson (f :: rest)) =
      f.toJson.sorted :: Value.sortedItems (fieldsToJson rest) :=
  rfl

theorem Validator.sorted_toJson (v : Validator) :
    v.toJson.sorted = .object [("component", .string v.component),
      ("params", .object [("allow_unknown", .boolean v.params.allowUnknown),
        ("fields", .array (Value.sortedItems (fieldsToJson v.params.fields)))])] :=
  rfl

theorem Node.sorted_toJson_ne_null (n : Node) : n.toJson.sorted ≠ .null := by
  cases n <;> simp [sorted_toJson_leaf, sorted_toJson_object, sorted_toJson_array]

-- The recursion is on one of the trees; the equal forms give the shape of the other one.
mutual

theorem Node.eq_of_sorted : (n m : Node) → n.toJson.sorted = m.toJson.sorted → n = m
  | .leaf kind, m, same => by
    rw [Node.sorted_toJson_leaf] at same
    cases m with
    | leaf other =>
      rw [Node.sorted_toJson_leaf] at same
      have names : kind.name = other.name := by simpa using same
      rw [LeafKind.eq_of_name names]
    | object => simp [Node.sorted_toJson_object] at same
    | array => simp [Node.sorted_toJson_array] at same
  | .object declared allowUnknown, m, same => by
    rw [Node.sorted_toJson_object] at same
    cases m with
    | leaf => simp [Node.sorted_toJson_leaf] at same
    | object declared' allowUnknown' =>
      rw [Node.sorted_toJson_object] at same
      obtain ⟨openness, fields⟩ : allowUnknown = allowUnknown' ∧
          Value.sortedItems (fieldsToJson declared) =
            Value.sortedItems (fieldsToJson declared') := by
        simpa using same
      rw [openness, fields_eq_of_sorted declared declared' fields]
    | array => simp [Node.sorted_toJson_array] at same
  | .array element, m, same => by
    rw [Node.sorted_toJson_array] at same
    cases m with
    | leaf => simp [Node.sorted_toJson_leaf] at same
    | object => simp [Node.sorted_toJson_object] at same
    | array other =>
      have elements : (element.elim .null fun n => n.toJson.sorted) =
          other.elim .null fun n => n.toJson.sorted := by
        simpa [Node.sorted_toJson_array] using same
      match element, other with
      | none, none => rfl
      | none, some other => exact absurd elements.symm other.sorted_toJson_ne_null
      | some element, none => exact absurd elements element.sorted_toJson_ne_null
      | some element, some other => rw [Node.eq_of_sorted element other elements]

theorem fields_eq_of_sorted : (declared declared' : List (Field Node)) →
    Value.sortedItems (fieldsToJson declared) = Value.sortedItems (fieldsToJson declared') →
    declared = declared'
  | [], declared', same => by
    cases declared' with
    | nil => rfl
    | cons => simp [fieldsToJson, Value.sortedItems] at same
  | ⟨name, required, node⟩ :: rest, declared', same => by
    cases declared' with
    | nil => simp [fieldsToJson, Value.sortedItems] at same
    | cons f rest' =>
      obtain ⟨name', required', node'⟩ := f
      obtain ⟨⟨names, nodes, flags⟩, rests⟩ :
          (name = name' ∧ node.toJson.sorted = node'.toJson.sorted ∧ required = required') ∧
          Value.sortedItems (fieldsToJson rest) = Value.sortedItems (fieldsToJson rest') := by
        simpa [sortedItems_fieldsToJson_cons, Field.sorted_toJson] using same
      rw [names, Node.eq_of_sorted node node' nodes, flags, fields_eq_of_sorted rest rest' rests]

end

theorem Validator.eq_of_sorted {v w : Validator} (same : v.toJson.sorted = w.toJson.sorted) :
    v = w := by
  obtain ⟨component, fields, allowUnknown⟩ := v
  obtain ⟨component', fields', allowUnknown'⟩ := w
  obtain ⟨components, openness, forms⟩ : component = component' ∧ allowUnknown = allowUnknown' ∧
      Value.sortedItems (fieldsToJson fields) = Value.sortedItems (fieldsToJson fields') := by
    simpa [sorted_toJson] using same
  rw [components, openness, fields_eq_of_sorted fields fields' forms]

/-! ### Texts -/

mutual

theorem Node.numberless_toJson : (n : Node) → n.toJson.Numberless
  | .leaf kind => by
    rw [Node.toJson]
    exact .object (by simpa using .string kind.name)
  | .object declared allowUnknown => by
    rw [Node.toJson]
    have fields := Value.Numberless.array (numberless_fieldsToJson declared)
    exact .object (by simpa using .object (by simpa using ⟨fields, .boolean allowUnknown⟩))
  | .array none => by
    rw [Node.toJson]
    exact .object (by simpa using .object (by simpa using .null))
  | .array (some element) => by
    rw [Node.toJson]
    exact .object (by simpa using .object (by simpa using element.numberless_toJson))

theorem numberless_fieldsToJson : (declared : List (Field Node)) →
    ∀ form ∈ fieldsToJson declared, form.Numberless
  | [] => by simp [fieldsToJson]
  | ⟨name, required, node⟩ :: rest => by
    have first : Value.Numberless (.object [("name", .string name), ("required", .boolean required),
        ("node", node.toJson)]) :=
      .object (by simpa using ⟨.string name, .boolean required, node.numberless_toJson⟩)
    rw [fieldsToJson, List.forall_mem_cons]
    exact ⟨first, numberless_fieldsToJson rest⟩

end

theorem Validator.numberless_toJson (v : Validator) : v.toJson.Numberless := by
  have fields := Value.Numberless.array (numberless_fieldsToJson v.params.fields)
  have params : v.params.toJson.Numberless :=
    .object (by simpa using ⟨fields, .boolean v.params.allowUnknown⟩)
  exact .object (by simpa using ⟨.string v.component, params⟩)

theorem Validator.eq_of_pretty {v w : Validator} (same : v.toJson.pretty = w.toJson.pretty) :
    v = w :=
  eq_of_sorted (congrArg Value.sorted (v.numberless_toJson.eq_of_pretty w.numberless_toJson same))

theorem output_showSchema (component : String) (spec : Spec) :
    (showSchema component spec).value.output =
      (({ component } : Compiler).compile spec).toJson.pretty ++ "\n" := by
  rw [← Compiler.value_compileLogged]
  rfl

/-- A validator is determined by its JSON value, also up to the order of members, and by its text,
so bodies are checked alike. What is shown of two specs is the same exactly if they compile to the
same validator. -/
theorem shown_tree_determines (v w : Validator) :
    (v.toJson = w.toJson → v = w ∧ ∀ body, v.check body = w.check body) ∧
    (v.toJson.sorted = w.toJson.sorted → v = w) ∧
    (v.toJson.pretty = w.toJson.pretty → v = w) ∧
    ∀ (component component' : String) (spec spec' : Spec),
      (showSchema component spec).value.output = (showSchema component' spec').value.output ↔
        ({ component } : Compiler).compile spec =
          ({ component := component' } : Compiler).compile spec' := by
  refine ⟨fun same => ?_, Validator.eq_of_sorted, Validator.eq_of_pretty, ?_⟩
  · obtain rfl := Validator.eq_of_sorted (congrArg Value.sorted same)
    exact ⟨rfl, fun _ => rfl⟩
  · intro component component' spec spec'
    simp only [output_showSchema]
    constructor
    · intro same
      exact Validator.eq_of_pretty (String.append_left_inj _ |>.1 same)
    · intro same
      rw [same]

/-- The columns that are left of rows declared twice. -/
def plainRows : List Parameter :=
  [{ name := "rows", type := .array,
     params := some [{ name := "text", type := .boolean }, { name := "class", type := .string }] },
   { name := "id", type := .string }]

theorem shown_tree_determines_repeatedRows :
    let c := Compiler.mk .standard "table"
    (c.compileNormalized repeatedRows).toJson = (c.compileNormalized plainRows).toJson ∧
      ∀ body, (c.compileNormalized repeatedRows).check body =
        (c.compileNormalized plainRows).check body := by
  intro c
  have same : (c.compileNormalized repeatedRows).toJson = (c.compileNormalized plainRows).toJson :=
    rfl
  exact ⟨same, ((shown_tree_determines _ _).1 same).2⟩

end ComponentSchema
