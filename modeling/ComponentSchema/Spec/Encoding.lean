import ComponentSchema.Spec

/-! Specs as JSON values. Absent descriptions, nested parameters and examples are left out. -/

set_option autoImplicit false

namespace ComponentSchema

mutual

def Parameter.toJson : Parameter → Json.Value
  | ⟨name, type, required, description, params⟩ =>
    .object <|
      [("name", .string name), ("type", .string type.tag), ("required", .boolean required)] ++
      (match description with
        | some text => [("description", .string text)]
        | none => []) ++
      (match params with
        | some nested => [("params", .array (parametersToJson nested))]
        | none => [])

def parametersToJson : List Parameter → List Json.Value
  | [] => []
  | p :: rest => p.toJson :: parametersToJson rest

end

def Example.toJson (e : Example) : Json.Value :=
  .object [("name", .string e.name), ("data", e.data), ("hidden", .boolean e.hidden)]

def Spec.toJson (spec : Spec) : Json.Value :=
  .object <|
    ("params", .array (parametersToJson spec.params)) ::
    if spec.examples.isEmpty then [] else [("examples", .array (spec.examples.map Example.toJson))]

theorem parametersToJson_eq_map (params : List Parameter) :
    parametersToJson params = params.map Parameter.toJson := by
  induction params with
  | nil => rfl
  | cons p rest ih => simp [parametersToJson, ih]

end ComponentSchema
