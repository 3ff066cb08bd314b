import ComponentSchema.Json.Value

/-! What a component spec declares: the parameters of a template and examples of its use. -/

set_option autoImplicit false

namespace ComponentSchema

/-- The declared type of a parameter. A tag that is none of the known ones is kept as it is. -/
inductive ParamType where
  | string
  | integer
  | boolean
  | object
  | array
  | block
  | unknown (tag : String)
  deriving DecidableEq, Inhabited

namespace ParamType

def ofTag (tag : String) : ParamType :=
  if tag = "string" then .string
  else if tag = "integer" then .integer
  else if tag = "boolean" then .boolean
  else if tag = "object" then .object
  else if tag = "array" then .array
  else if tag = "nunjucks-block" then .block
  else .unknown tag

def tag : ParamType → String
  | .string => "string"
  | .integer => "integer"
  | .boolean => "boolean"
  | .object => "object"
  | .array => "array"
  | .block => "nunjucks-block"
  | .unknown tag => tag

@[simp] theorem tag_ofTag (tag : String) : (ofTag tag).tag = tag := by
  unfold ofTag
  repeat' split
  all_goals simp_all [ParamType.tag]

end ParamType

/-- A declared parameter. Nested parameters describe an object, or each element of an array;
none and an empty list both leave it open. -/
structure Parameter where
  name : String
  type : ParamType
  required : Bool := false
  description : Option String := none
  params : Option (List Parameter) := none
  deriving BEq, Inhabited

def Parameter.nested (p : Parameter) : List Parameter :=
  p.params.getD []

theorem Parameter.sizeOf_lt_of_mem_nested {p q : Parameter} (member : q ∈ p.nested) :
    sizeOf q < sizeOf p := by
  obtain ⟨name, type, required, description, params⟩ := p
  cases params with
  | none => cases member
  | some inner =>
    have := List.sizeOf_lt_of_mem (show q ∈ inner from member)
    simp only [Parameter.mk.sizeOf_spec, Option.some.sizeOf_spec]
    omega

/-- Parameters are finite trees: what passes from the nested parameters to their parameter holds of
all. -/
theorem Parameter.induction {motive : Parameter → Prop}
    (step : ∀ p : Parameter, (∀ q ∈ p.nested, motive q) → motive p) (p : Parameter) : motive p :=
  step p fun q member =>
    have := Parameter.sizeOf_lt_of_mem_nested member
    Parameter.induction step q
termination_by sizeOf p

structure Example where
  name : String
  data : Json.Value := .null
  hidden : Bool := false
  deriving Inhabited

structure Spec where
  params : List Parameter := []
  examples : List Example := []
  deriving Inhabited

end ComponentSchema
