import ComponentSchema.Json.Value

/-!
Compiled validators: a tree of checks that has the shape of the values it accepts.

The tree is plain data. It can be inspected and compared, and its JSON form tells two trees apart.
-/

set_option autoImplicit false

namespace ComponentSchema

/-- What a leaf accepts: truth values, strings, whole numbers in the safe range, markup given as a
string, or anything. -/
inductive LeafKind where
  | boolean
  | string
  | integer
  | block
  | any
  deriving DecidableEq, Inhabited

namespace LeafKind

def expected : LeafKind → String
  | .boolean => "boolean"
  | .string => "string"
  | .integer => "integer"
  | .block => "string"
  | .any => "any"

def name : LeafKind → String
  | .boolean => "boolean"
  | .string => "string"
  | .integer => "integer"
  | .block => "block"
  | .any => "any"

end LeafKind

structure Field (α : Type) where
  name : String
  required : Bool
  node : α
  deriving BEq, Inhabited

/-- A check of one value. An object is checked field by field, in declaration order; an array
without an element check accepts any elements. -/
inductive Node where
  | leaf (kind : LeafKind)
  | object (fields : List (Field Node)) (allowUnknown : Bool)
  | array (element : Option Node)
  deriving Inhabited

def Node.expected : Node → String
  | .leaf kind => kind.expected
  | .object .. => "object"
  | .array _ => "array"

structure ObjectNode where
  fields : List (Field Node) := []
  allowUnknown : Bool := true
  deriving Inhabited

namespace ObjectNode

def node (o : ObjectNode) : Node :=
  .object o.fields o.allowUnknown

def field? (o : ObjectNode) (name : String) : Option (Field Node) :=
  o.fields.find? (·.name == name)

end ObjectNode

/-- Add a field, in place of an earlier one of the same name. -/
def insertField (field : Field Node) : List (Field Node) → List (Field Node)
  | [] => [field]
  | f :: rest => if f.name = field.name then field :: rest else f :: insertField field rest

/-- The validator of the request bodies of a component: an object whose member `params` is an object
that passes the check. -/
structure Validator where
  component : String
  params : ObjectNode
  deriving Inhabited

/-! ### JSON form -/

mutual

def Node.toJson : Node → Json.Value
  | .leaf kind => .object [("leaf", .string kind.name)]
  | .object fields allowUnknown =>
    .object [("object", .object
      [("fields", .array (fieldsToJson fields)), ("allow_unknown", .boolean allowUnknown)])]
  | .array none => .object [("array", .object [("element", .null)])]
  | .array (some element) => .object [("array", .object [("element", element.toJson)])]

def fieldsToJson : List (Field Node) → List Json.Value
  | [] => []
  | ⟨name, required, node⟩ :: rest =>
    .object [("name", .string name), ("required", .boolean required), ("node", node.toJson)] ::
      fieldsToJson rest

end

def Field.toJson (f : Field Node) : Json.Value :=
  .object [("name", .string f.name), ("required", .boolean f.required), ("node", f.node.toJson)]

def ObjectNode.toJson (o : ObjectNode) : Json.Value :=
  .object [("fields", .array (fieldsToJson o.fields)), ("allow_unknown", .boolean o.allowUnknown)]

def Validator.toJson (v : Validator) : Json.Value :=
  .object [("component", .string v.component), ("params", v.params.toJson)]

theorem fieldsToJson_eq_map (fields : List (Field Node)) :
    fieldsToJson fields = fields.map Field.toJson := by
  induction fields with
  | nil => rfl
  | cons f rest ih => simp [fieldsToJson, Field.toJson, ih]

end ComponentSchema
