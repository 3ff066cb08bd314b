import ComponentSchema.Proofs.RoundTrip
import ComponentSchema.Proofs.SpecGrammar

/-! Members that no field declares: a spec is decoded from the declared part of a value, and so is
the mismatch that is reported instead. -/

set_option autoImplicit false

namespace ComponentSchema

open Json (Members Value)

mutual

/-- What is left of a value of a form without the members that no field of their record declares.
Arrays keep all their items, also those no field stands for. -/
def declaredPart : Form → Value → Value
  | .list element, .array items => .array (declaredElements element items)
  | .record kind, .object members => .object (declaredMembers kind members)
  | .record kind, .array items => .array (declaredItems kind.fields items)
  | _, v => v

def declaredMembers (kind : Record) : List (String × Value) → Members
  | [] => []
  | (key, value) :: rest =>
    match kind.field? key with
    | some field => (key, declaredPart field.form value) :: declaredMembers kind rest
    | none => declaredMembers kind rest

def declaredElements (element : Form) : List Value → List Value
  | [] => []
  | item :: rest => declaredPart element item :: declaredElements element rest

def declaredItems : List FieldForm → List Value → List Value
  | field :: fields, item :: rest => declaredPart field.form item :: declaredItems fields rest
  | _, items => items

end

theorem Record.field?_eq_none_iff {kind : Record} {key : String} :
    kind.field? key = none ↔ key ∉ kind.fields.map FieldForm.name := by
  simp [field?, List.find?_eq_none]

-- The theorems recurse as the decoder does, whatever has been read into the draft before.
mutual

theorem Parameter.ofJson_declaredPart (v : Value) :
    Parameter.ofJson (declaredPart (.record .parameter) v) = Parameter.ofJson v := by
  cases v with
  | object members => simp only [declaredPart, Parameter.ofJson, parameterMembers_declaredMembers]
  | array items => simp only [declaredPart, Parameter.ofJson, parameterOfItems_declaredItems]
  | _ => rfl

theorem parameterMembers_declaredMembers (draft : ParameterDraft)
    (members : List (String × Value)) :
    parameterMembers draft (declaredMembers .parameter members) =
      parameterMembers draft members := by
  match members with
  | [] => rfl
  | (key, value) :: rest =>
    have more draft := parameterMembers_declaredMembers draft rest
    have nested := nestedOfJson_declaredPart value
    by_cases declared : key ∈ Record.parameter.fields.map FieldForm.name
    · simp only [Record.fields, List.map, List.mem_cons, List.not_mem_nil, or_false] at declared
      rcases declared with rfl | rfl | rfl | rfl | rfl
      all_goals
        simp [declaredMembers, Record.field?, Record.fields, declaredPart, parameterMembers, more,
          nested]
    · rw [declaredMembers, Record.field?_eq_none_iff.2 declared, more]
      simp only [Record.fields, List.map, List.mem_cons, List.not_mem_nil, or_false,
        not_or] at declared
      simp [parameterMembers, declared]

theorem parameterOfItems_declaredItems (items : List Value) :
    parameterOfItems (declaredItems Record.parameter.fields items) = parameterOfItems items := by
  match items with
  | [] | [_] | [_, _] | [_, _, _] | [_, _, _, _] =>
      simp [declaredItems, Record.fields, declaredPart]
  | _ :: _ :: _ :: _ :: params :: _ =>
    have nested := nestedOfJson_declaredPart params
    simp [declaredItems, Record.fields, declaredPart, parameterOfItems, nested]

theorem nestedOfJson_declaredPart (v : Value) :
    nestedOfJson (declaredPart (.list (.record .parameter)) v) = nestedOfJson v := by
  cases v with
  | array items => simp only [declaredPart, nestedOfJson, parametersOfItems_declaredElements]
  | _ => rfl

theorem parametersOfItems_declaredElements (items : List Value) :
    parametersOfItems (declaredElements (.record .parameter) items) = parametersOfItems items := by
  match items with
  | [] => rfl
  | item :: rest =>
    simp only [declaredElements, parametersOfItems, Parameter.ofJson_declaredPart item,
      parametersOfItems_declaredElements rest]

end

theorem exampleMembers_declaredMembers (draft : ExampleDraft) (members : Members) :
    exampleMembers draft (declaredMembers .example members) = exampleMembers draft members := by
  induction members generalizing draft with
  | nil => rfl
  | cons member rest ih =>
    obtain ⟨key, value⟩ := member
    by_cases declared : key ∈ Record.example.fields.map FieldForm.name
    · simp only [Record.fields, List.map, List.mem_cons, List.not_mem_nil, or_false] at declared
      rcases declared with rfl | rfl | rfl
      all_goals
        simp [declaredMembers, Record.field?, Record.fields, declaredPart, exampleMembers, ih]
    · rw [declaredMembers, Record.field?_eq_none_iff.2 declared, ih]
      simp only [Record.fields, List.map, List.mem_cons, List.not_mem_nil, or_false,
        not_or] at declared
      simp [exampleMembers, declared]

theorem Example.ofJson_declaredPart (v : Value) :
    Example.ofJson (declaredPart (.record .example) v) = Example.ofJson v := by
  match v with
  | .object members => simp only [declaredPart, Example.ofJson, exampleMembers_declaredMembers]
  | .array [] | .array [_] | .array [_, _] | .array (_ :: _ :: _ :: _) =>
    simp [declaredPart, declaredItems, Record.fields, Example.ofJson]
  | .null | .boolean _ | .number _ | .string _ => rfl

theorem parametersOfJson_declaredPart (v : Value) :
    parametersOfJson (declaredPart (.list (.record .parameter)) v) = parametersOfJson v := by
  cases v with
  | array items => simp only [declaredPart, parametersOfJson, parametersOfItems_declaredElements]
  | _ => rfl

theorem examplesOfJson_declaredPart (v : Value) :
    examplesOfJson (declaredPart (.list (.record .example)) v) = examplesOfJson v := by
  cases v with
  | array items =>
    rw [declaredPart, examplesOfJson, examplesOfJson]
    induction items with
    | nil => rfl
    | cons item rest ih =>
      rw [declaredElements, List.mapM_cons, List.mapM_cons, ih, Example.ofJson_declaredPart]
  | _ => rfl

theorem specMembers_declaredMembers (draft : SpecDraft) (members : Members) :
    specMembers draft (declaredMembers .spec members) = specMembers draft members := by
  induction members generalizing draft with
  | nil => rfl
  | cons member rest ih =>
    obtain ⟨key, value⟩ := member
    by_cases declared : key ∈ Record.spec.fields.map FieldForm.name
    · simp only [Record.fields, List.map, List.mem_cons, List.not_mem_nil, or_false] at declared
      rcases declared with rfl | rfl
      all_goals
        simp [declaredMembers, Record.field?, Record.fields, specMembers, ih,
          parametersOfJson_declaredPart, examplesOfJson_declaredPart]
    · rw [declaredMembers, Record.field?_eq_none_iff.2 declared, ih]
      simp only [Record.fields, List.map, List.mem_cons, List.not_mem_nil, or_false,
        not_or] at declared
      simp [specMembers, declared]

theorem Spec.ofJson_declaredPart (v : Value) :
    Spec.ofJson (declaredPart (.record .spec) v) = Spec.ofJson v := by
  match v with
  | .object members => simp only [declaredPart, Spec.ofJson, specMembers_declaredMembers]
  | .array [] | .array [_] | .array (_ :: _ :: _) =>
    simp [declaredPart, declaredItems, Record.fields, Spec.ofJson, parametersOfJson_declaredPart,
      examplesOfJson_declaredPart]
  | .null | .boolean _ | .number _ | .string _ => rfl

/-- Decoding accepts the values of the grammar, with what they give for each field, and reports the
same for values that differ in undeclared members. -/
theorem ofValue_accepts_grammar (v : Value) :
    (∀ spec, Spec.ofValue v = .ok spec ↔ spec.Spelled v) ∧
    ∀ w, declaredPart (.record .spec) v = declaredPart (.record .spec) w →
      Spec.ofValue v = Spec.ofValue w := by
  refine ⟨fun spec => Spec.ofValue_eq_ok_iff.trans Spec.ofJson_eq_ok_iff, fun w same => ?_⟩
  rw [Spec.ofValue, Spec.ofValue, ← Spec.ofJson_declaredPart v, same, Spec.ofJson_declaredPart]

/-- A spec with a note at each record: the spec itself, a parameter of an unknown type, a parameter
nested in the items of another one, and an example. -/
def annotatedSpec : Value :=
  .object [
    ("accessibilityCriteria", .string "Be usable."),
    ("params", .array [
      .object [("name", .string "x"), ("isComponent", .boolean true), ("type", .string "mystery")],
      .array [.string "rows", .string "array", .boolean true, .null, .array [
        .object [("note", .null), ("type", .string "string"), ("name", .string "text")]]]]),
    ("examples", .array [
      .object [("name", .string "empty"), ("data", .object [("note", .null)]),
        ("fixture", .array [])]])]

/-- The same spec without the notes. The data of an example are kept as they are. -/
def bareSpec : Value :=
  .object [
    ("params", .array [
      .object [("name", .string "x"), ("type", .string "mystery")],
      .array [.string "rows", .string "array", .boolean true, .null, .array [
        .object [("type", .string "string"), ("name", .string "text")]]]]),
    ("examples", .array [.object [("name", .string "empty"), ("data", .object [("note", .null)])]])]

def decodedSpec : Spec :=
  { params := [
      { name := "x", type := .unknown "mystery" },
      { name := "rows", type := .array, required := true
        params := some [{ name := "text", type := .string }] }]
    examples := [{ name := "empty", data := .object [("note", .null)] }] }

theorem ofValue_accepts_grammar_annotated :
    declaredPart (.record .spec) annotatedSpec = declaredPart (.record .spec) bareSpec ∧
      Spec.ofValue annotatedSpec = Spec.ofValue bareSpec ∧ decodedSpec.Spelled bareSpec := by
  have same : declaredPart (.record .spec) annotatedSpec = declaredPart (.record .spec) bareSpec :=
    rfl
  exact ⟨same, (ofValue_accepts_grammar annotatedSpec).2 bareSpec same,
    ((ofValue_accepts_grammar bareSpec).1 decodedSpec).1 rfl⟩

end ComponentSchema
