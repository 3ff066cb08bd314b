import Mathlib.Data.List.Forall2
import ComponentSchema.Proofs.CompiledFields
import ComponentSchema.Proofs.NormalForm

/-! Warnings of a compilation: no field accepts anything without one, and there are no others. -/

set_option autoImplicit false

namespace ComponentSchema

/-! ### Fields that accept anything -/

def Node.isAny : Node → Bool
  | .leaf .any => true
  | _ => false

mutual

/-- The paths to the fields below a node that accept anything, depth first and in the order of
declaration. A path is the names of the fields on the way; elements of arrays are passed without
one. -/
def Node.anyPaths : Node → List (List String)
  | .leaf _ => []
  | .object fields _ => anyPathsOf fields
  | .array none => []
  | .array (some element) => element.anyPaths

def anyPathsOf : List (Field Node) → List (List String)
  | [] => []
  | ⟨name, _, node⟩ :: rest =>
    ((if node.isAny then [[name]] else []) ++ node.anyPaths.map (name :: ·)) ++ anyPathsOf rest

end

/-- The paths to the field itself and to those below it that accept anything. -/
def Field.anyPaths (f : Field Node) : List (List String) :=
  (if f.node.isAny then [[f.name]] else []) ++ f.node.anyPaths.map (f.name :: ·)

theorem anyPathsOf_eq_flatMap (fields : List (Field Node)) :
    anyPathsOf fields = fields.flatMap Field.anyPaths := by
  induction fields with
  | nil => rfl
  | cons f rest ih => rw [anyPathsOf, ih, List.flatMap_cons, Field.anyPaths]

/-- The parameter at the end of a path of names through nested parameters. -/
def parameterAt? (params : List Parameter) : (path : List String) → Option Parameter
  | [] => none
  | [name] => params.find? (·.name == name)
  | name :: next :: path =>
    (params.find? (·.name == name)).bind fun p => parameterAt? p.nested (next :: path)

/-! ### Warnings -/

def Log.warnings (events : List Log.Event) : List Log.Event :=
  events.filter (·.level = .warn)

namespace Compiler

variable (c : Compiler)

/-- The warning about the parameter at a path, which is of a type that is not known. -/
def WarnsOf (params : List Parameter) (path : List String) (event : Log.Event) : Prop :=
  ∃ p tag, parameterAt? params path = some p ∧ path.getLast? = some p.name ∧ p.type = .unknown tag ∧
    event = { level := .warn
              origin := .compilation
              message := "unrecognized parameter type; accepting any value"
              fields := [("component", .quoted c.component), ("field", .shown p.name),
                ("tag", .shown tag)] }

theorem fieldEvents_eq (p : Parameter) :
    c.fieldEvents p =
      if c.hasRows p.name && !p.nested.isEmpty then c.rowsEvent p.name :: c.fieldsEvents p.nested
      else
        match p.type with
        | .object => c.fieldsEvents p.nested
        | .array => c.fieldsEvents p.nested
        | .unknown tag => [c.unknownEvent p.name tag]
        | _ => [] := by
  obtain ⟨name, type, required, description, params⟩ := p
  cases params <;> cases type <;>
    simp [fieldEvents, fieldEvents.ownEvents, fieldsEvents, Parameter.nested]

theorem fieldsEvents_eq_flatMap (params : List Parameter) :
    c.fieldsEvents params = params.flatMap c.fieldEvents := by
  induction params with
  | nil => rfl
  | cons p rest ih => rw [fieldsEvents, ih, List.flatMap_cons]

variable {c}

theorem WarnsOf.below {params : List Parameter} (distinct : (params.map (·.name)).Nodup)
    {p : Parameter} (member : p ∈ params) {path : List String} {event : Log.Event}
    (warns : c.WarnsOf p.nested path event) : c.WarnsOf params (p.name :: path) event := by
  obtain ⟨q, tag, found, last, type, same⟩ := warns
  cases path with
  | nil => cases found
  | cons next path =>
    refine ⟨q, tag, ?_, ?_, type, same⟩
    · rw [parameterAt?, find?_key_eq distinct member]
      exact found
    · rw [List.getLast?_cons_cons]
      exact last

theorem WarnsOf.here {params : List Parameter} (distinct : (params.map (·.name)).Nodup)
    {p : Parameter} (member : p ∈ params) {tag : String} (type : p.type = .unknown tag) :
    c.WarnsOf params [p.name] (c.unknownEvent p.name tag) :=
  ⟨p, tag, find?_key_eq distinct member, rfl, type, rfl⟩

/-- The warnings about a list of parameters are those about its fields that accept anything. -/
def Candid (c : Compiler) (params : List Parameter) : Prop :=
  List.Forall₂ (c.WarnsOf params) (anyPathsOf (c.fields [] params))
    (Log.warnings (c.fieldsEvents params))

theorem candid_field {params : List Parameter} (distinct : (params.map (·.name)).Nodup)
    {p : Parameter} (member : p ∈ params) (nested : c.Candid p.nested) :
    List.Forall₂ (c.WarnsOf params) (c.field p).anyPaths (Log.warnings (c.fieldEvents p)) := by
  have below : List.Forall₂ (c.WarnsOf params)
    ((anyPathsOf (c.fields [] p.nested)).map (p.name :: ·))
      (Log.warnings (c.fieldsEvents p.nested)) :=
    List.forall₂_map_left_iff.2 (nested.imp fun _ _ => WarnsOf.below distinct member)
  have empty : (c.fields [] p.nested).isEmpty = p.nested.isEmpty := by
    rw [Bool.eq_iff_iff, c.isEmpty_fields_iff, List.isEmpty_iff]
  rw [Field.anyPaths, field_eq, fieldEvents_eq, fieldNode, empty]
  -- Rows are compiled whatever the type is, so a type that is not known warns of nothing there.
  split
  · exact below
  · cases type : p.type with
    | object => exact below
    | array =>
      rw [typeNode, empty]
      split
      · rename_i none
        rw [List.isEmpty_iff.1 none]
        exact .nil
      · exact below
    | unknown tag => exact .cons (WarnsOf.here distinct member type) .nil
    | _ => exact .nil

theorem candid_of_nested {params : List Parameter} (distinct : (params.map (·.name)).Nodup)
    (nested : ∀ p ∈ params, c.Candid p.nested) : c.Candid params := by
  rw [Candid, c.fields_of_nodup distinct, anyPathsOf_eq_flatMap, fieldsEvents_eq_flatMap,
    Log.warnings, List.filter_flatMap, List.flatMap_map, List.flatMap_def, List.flatMap_def]
  apply List.rel_flatten
  rw [List.forall₂_map_left_iff, List.forall₂_map_right_iff, List.forall₂_same]
  exact fun p member => candid_field distinct member (nested p member)

theorem candid_nested (p : Parameter) (normal : Normal p.nested) : c.Candid p.nested := by
  induction p using Parameter.induction with
  | step p ih =>
    exact candid_of_nested normal.distinct fun q member => ih q member (normal.nested member)

end Compiler

/-- Normalization logs what it does, but warns of nothing. -/
theorem warnings_normalizationEvents (params : List Parameter) :
    Log.warnings (normalizationEvents params) = [] := by
  induction params using normalizeInduction with
  | step params ih =>
    rw [normalizationEvents_eq, Log.warnings, List.filter_flatMap, List.flatMap_eq_nil_iff]
    intro g member
    rw [List.filter_append, List.append_eq_nil_iff]
    constructor
    · split <;> rfl
    · exact ih g member

/-- The warnings of a compilation are those about the fields that accept anything, one for each and
in their order. Each tells the name and the tag that the normalized spec declares at the same
path. -/
theorem warnings_compileLogged (t : OverrideTable) (component : String) (spec : Spec) :
    List.Forall₂ ((Compiler.mk t component).WarnsOf (normalize spec.params))
      ((Compiler.mk t component).compileLogged spec).value.params.node.anyPaths
      (Log.warnings ((Compiler.mk t component).compileLogged spec).events) := by
  have normal := normal_normalize spec.params
  have split : Log.warnings ((Compiler.mk t component).compileLogged spec).events =
      Log.warnings (normalizationEvents spec.params) ++
        Log.warnings ((Compiler.mk t component).fieldsEvents (normalize spec.params)) :=
    List.filter_append ..
  rw [split, warnings_normalizationEvents, List.nil_append]
  exact Compiler.candid_of_nested normal.distinct fun p member =>
    Compiler.candid_nested p (normal.nested member)

end ComponentSchema
