import ComponentSchema.Normalization
import ComponentSchema.Overrides
import ComponentSchema.Validator

/-!
Validators from specs.

Every parameter becomes a field, its type a check; of parameters with one name the last counts, at
the place of the first. Compilation never fails: a parameter of an unknown type becomes a field that
accepts anything, and is reported.
-/

set_option autoImplicit false

namespace ComponentSchema

structure Compiler where
  overrides : OverrideTable := .standard
  component : String

namespace Compiler

variable (c : Compiler)

/-- Whether a field of this name is compiled as an array of rows, if it has nested parameters. -/
def hasRows (name : String) : Bool :=
  c.overrides.transform? c.component name == some .arrayOfRows

def requires (name : String) (declared : Bool) : Bool :=
  declared && !c.overrides.forcesOptional name

def openObject (fields : List (Field Node)) : Node :=
  .object fields true

def typeNode (type : ParamType) (fields : List (Field Node)) : Node :=
  match type with
  | .boolean => .leaf .boolean
  | .string => .leaf .string
  | .integer => .leaf .integer
  | .block => .leaf .block
  | .unknown _ => .leaf .any
  | .object => openObject fields
  | .array => .array (if fields.isEmpty then none else some (openObject fields))

/-- The check of a field: rows of cells where an override says so, and its declared type
otherwise. -/
def fieldNode (name : String) (type : ParamType) (fields : List (Field Node)) : Node :=
  if c.hasRows name && !fields.isEmpty then .array (some (.array (some (openObject fields))))
  else typeNode type fields

mutual

def field : Parameter → Field Node
  | ⟨name, type, required, _, none⟩ =>
    { name, required := c.requires name required, node := c.fieldNode name type [] }
  | ⟨name, type, required, _, some nested⟩ =>
    { name, required := c.requires name required, node := c.fieldNode name type (fields [] nested) }

/-- The fields of a list of parameters, after some that are there already. -/
def fields (earlier : List (Field Node)) : List Parameter → List (Field Node)
  | [] => earlier
  | p :: rest => fields (insertField (field p) earlier) rest

end

def compileNormalized (params : List Parameter) : Validator :=
  { component := c.component, params := { fields := c.fields [] params } }

/-- Compile a spec: its parameters, normalized. -/
def compile (spec : Spec) : Validator :=
  c.compileNormalized (normalize spec.params)

/-! ### Events -/

def rowsEvent (name : String) : Log.Event :=
  { level := .debug
    origin := .compilation
    message := "compiling field as array of rows"
    fields := [("component", .quoted c.component), ("field", .shown name)] }

def unknownEvent (name tag : String) : Log.Event :=
  { level := .warn
    origin := .compilation
    message := "unrecognized parameter type; accepting any value"
    fields := [("component", .quoted c.component), ("field", .shown name), ("tag", .shown tag)] }

mutual

/-- The events of a parameter, before those of its nested parameters, if these are compiled. -/
def fieldEvents : Parameter → List Log.Event
  | ⟨name, type, _, _, none⟩ => ownEvents name type
  | ⟨name, type, _, _, some nested⟩ =>
    if c.hasRows name && !nested.isEmpty then c.rowsEvent name :: fieldsEvents nested
    else
      match type with
      | .object => fieldsEvents nested
      | .array => fieldsEvents nested
      | type => ownEvents name type
where
  ownEvents (name : String) : ParamType → List Log.Event
    | .unknown tag => [c.unknownEvent name tag]
    | _ => []

def fieldsEvents : List Parameter → List Log.Event
  | [] => []
  | p :: rest => fieldEvents p ++ fieldsEvents rest

end

def compileNormalizedLogged (params : List Parameter) : Logged Validator :=
  { value := c.compileNormalized params, events := c.fieldsEvents params }

def compileLogged (spec : Spec) : Logged Validator := do
  c.compileNormalizedLogged (← normalizeLogged spec.params)

theorem value_compileLogged (spec : Spec) : (c.compileLogged spec).value = c.compile spec := rfl

end Compiler

end ComponentSchema
