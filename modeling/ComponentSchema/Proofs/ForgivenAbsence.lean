import ComponentSchema.Proofs.Agreement
import ComponentSchema.Proofs.Conformance

/-! Tables with one more optional suffix. The tree of a spec keeps its shape and only requires less,
so a report loses the absences that the suffix forgives and nothing else. -/

set_option autoImplicit false

namespace ComponentSchema

open Json (Members Value)

/-! ### Trees that require less -/

mutual

/-- The node without the requirements of fields whose names end in the suffix, at every depth. -/
def Node.forgive (suffix : String) : Node → Node
  | .leaf kind => .leaf kind
  | .object fields allowUnknown => .object (forgiveFields suffix fields) allowUnknown
  | .array none => .array none
  | .array (some element) => .array (some (element.forgive suffix))

def forgiveFields (suffix : String) : List (Field Node) → List (Field Node)
  | [] => []
  | ⟨name, required, node⟩ :: rest =>
    ⟨name, required && !Text.EndsIn name suffix, node.forgive suffix⟩ :: forgiveFields suffix rest

end

def Field.forgive (suffix : String) (f : Field Node) : Field Node :=
  { name := f.name
    required := f.required && !Text.EndsIn f.name suffix
    node := f.node.forgive suffix }

theorem forgiveFields_eq_map (suffix : String) (fields : List (Field Node)) :
    forgiveFields suffix fields = fields.map (Field.forgive suffix) := by
  induction fields with
  | nil => rfl
  | cons f rest ih => rw [forgiveFields, ih, List.map_cons, Field.forgive]

theorem Node.fits_forgive (suffix : String) (n : Node) (value : Value) :
    (n.forgive suffix).fits value = n.fits value := by
  cases n with
  | leaf kind => rfl
  | object fields allowUnknown => cases value <;> rfl
  | array element => cases element <;> cases value <;> rfl

theorem Node.expected_forgive (suffix : String) (n : Node) :
    (n.forgive suffix).expected = n.expected := by
  cases n with
  | array element => cases element <;> rfl
  | _ => rfl

theorem insertField_forgive (suffix : String) (f : Field Node) (fields : List (Field Node)) :
    insertField (f.forgive suffix) (fields.map (Field.forgive suffix)) =
      (insertField f fields).map (Field.forgive suffix) := by
  induction fields with
  | nil => rfl
  | cons first rest ih =>
    have name (f : Field Node) : (f.forgive suffix).name = f.name := rfl
    rw [List.map_cons, insertField, insertField, name, name, ih]
    split <;> rfl

namespace Compiler

variable {t : OverrideTable} {suffix component : String}

theorem requires_addSuffix (name : String) (declared : Bool) :
    (Compiler.mk (t.addSuffix suffix) component).requires name declared =
      ((Compiler.mk t component).requires name declared && !Text.EndsIn name suffix) := by
  rw [Bool.eq_iff_iff, Bool.and_eq_true, requires_iff, requires_iff,
    OverrideTable.forgives_addSuffix_iff]
  simp [and_assoc]

theorem forgive_openObject (fields : List (Field Node)) :
    (openObject fields).forgive suffix = openObject (fields.map (Field.forgive suffix)) := by
  rw [openObject, Node.forgive, forgiveFields_eq_map, openObject]

theorem forgive_typeNode (type : ParamType) (fields : List (Field Node)) :
    (typeNode type fields).forgive suffix = typeNode type (fields.map (Field.forgive suffix)) := by
  cases type with
  | object => exact forgive_openObject fields
  | array =>
    rw [typeNode, typeNode, List.isEmpty_map]
    split
    · rfl
    · rw [Node.forgive, forgive_openObject]
  | _ => rfl

theorem forgive_fieldNode (name : String) (type : ParamType) (fields : List (Field Node)) :
    ((Compiler.mk t component).fieldNode name type fields).forgive suffix =
      (Compiler.mk (t.addSuffix suffix) component).fieldNode name type
        (fields.map (Field.forgive suffix)) := by
  have rows : (Compiler.mk (t.addSuffix suffix) component).hasRows name =
      (Compiler.mk t component).hasRows name := rfl
  rw [fieldNode, fieldNode, rows, List.isEmpty_map]
  split
  · rw [Node.forgive, Node.forgive, forgive_openObject]
  · exact forgive_typeNode type fields

theorem fields_addSuffix {params : List Parameter} (earlier : List (Field Node))
    (each : ∀ p ∈ params, (Compiler.mk (t.addSuffix suffix) component).field p =
      ((Compiler.mk t component).field p).forgive suffix) :
    (Compiler.mk (t.addSuffix suffix) component).fields
      (earlier.map (Field.forgive suffix)) params =
      ((Compiler.mk t component).fields earlier params).map (Field.forgive suffix) := by
  induction params generalizing earlier with
  | nil => rfl
  | cons p rest ih =>
    rw [List.forall_mem_cons] at each
    rw [fields, fields, each.1, insertField_forgive, ih _ each.2]

theorem field_addSuffix (p : Parameter) :
    (Compiler.mk (t.addSuffix suffix) component).field p =
      ((Compiler.mk t component).field p).forgive suffix := by
  induction p using Parameter.induction with
  | step p ih =>
    have nested := fields_addSuffix [] ih
    rw [List.map_nil] at nested
    rw [field_eq, field_eq, Field.forgive, requires_addSuffix, nested, forgive_fieldNode]

theorem node_compile_addSuffix (spec : Spec) :
    ((Compiler.mk (t.addSuffix suffix) component).compile spec).params.node =
      ((Compiler.mk t component).compile spec).params.node.forgive suffix := by
  have fields : (Compiler.mk (t.addSuffix suffix) component).fields [] (normalize spec.params) =
      ((Compiler.mk t component).fields [] (normalize spec.params)).map (Field.forgive suffix) :=
    fields_addSuffix [] fun p _ => field_addSuffix p
  exact (congrArg openObject fields).trans (forgive_openObject _).symm

end Compiler

/-! ### Reports -/

/-- A missing key below the parameters, with the suffix at its end. -/
def Issue.forgivenBy (suffix : String) (issue : Issue) : Bool :=
  issue.kind = .missing && 2 ≤ issue.path.length &&
    match issue.path.getLast? with
    | some (.key name) => Text.EndsIn name suffix
    | _ => false

theorem Issue.forgivenBy_mismatch (suffix : String) (path : Location) (expected : String)
    (value : Value) :
    (Issue.mismatch path expected value).forgivenBy suffix = false := by
  simp [forgivenBy, mismatch]

theorem Issue.forgivenBy_missing (suffix : String) {above : Location} (inside : above ≠ [])
    (name expected : String) :
    (Issue.missing (above ++ [.key name]) expected).forgivenBy suffix =
      Text.EndsIn name suffix := by
  have length := List.length_pos_iff.2 inside
  simp [forgivenBy, missing, Nat.succ_le_of_lt length]

/-- Seen from a place inside a body, the node without some requirements finds what the node itself
does, except for the absences that are forgiven. -/
def Node.Forgives (suffix : String) (n : Node) : Prop :=
  ∀ (above : Location) (value : Value), above ≠ [] →
    ((n.forgive suffix).findings value).map (·.within above) =
      ((n.findings value).map (·.within above)).filter fun issue => !issue.forgivenBy suffix

theorem Node.forgives_of_not_fits {suffix : String} {n : Node} {value : Value}
    (unfit : n.fits value = false) (above : Location) :
    ((n.forgive suffix).findings value).map (·.within above) =
      ((n.findings value).map (·.within above)).filter fun issue => !issue.forgivenBy suffix := by
  rw [findings_of_not_fits ((n.fits_forgive suffix value).trans unfit), findings_of_not_fits unfit,
    expected_forgive]
  simp [Issue.forgivenBy_mismatch]

theorem Field.findings_forgive {suffix : String} {f : Field Node} (node : f.node.Forgives suffix)
    {above : Location} (inside : above ≠ []) (members : Members) :
    ((f.forgive suffix).findings members).map (·.within above) =
      ((f.findings members).map (·.within above)).filter fun issue => !issue.forgivenBy suffix := by
  rw [findings, findings, forgive]
  cases members.lookup f.name with
  | some value =>
    have below := node (above ++ [.key f.name]) value (by simp)
    simpa [Function.comp_def, Issue.within_within] using below
  | none =>
    cases required : f.required
    · rfl
    · by_cases ends : Text.EndsIn f.name suffix
      all_goals simp [List.filter_cons, Issue.forgivenBy_missing suffix inside, ends,
        Node.expected_forgive]

theorem Node.forgives_object {suffix : String} {fields : List (Field Node)}
    (each : ∀ f ∈ fields, f.node.Forgives suffix) : (Node.object fields true).Forgives suffix := by
  intro above value inside
  cases value with
  | object members =>
    rw [forgive, forgiveFields_eq_map, findings_object, findings_object, List.flatMap_map,
      List.map_flatMap, List.map_flatMap, List.filter_flatMap]
    apply List.flatMap_congr
    intro f member
    exact Field.findings_forgive (each f member) inside members
  | _ => exact forgives_of_not_fits rfl above

theorem Node.forgives_array {suffix : String} {element : Node} (each : element.Forgives suffix) :
    (Node.array (some element)).Forgives suffix := by
  intro above value inside
  cases value with
  | array items =>
    rw [forgive, findings_array, findings_array, List.map_flatMap, List.map_flatMap,
      List.filter_flatMap]
    apply List.flatMap_congr
    intro (item, i) member
    have below := each (above ++ [.index i]) item (by simp)
    simpa [Function.comp_def, Issue.within_within] using below
  | _ => exact forgives_of_not_fits rfl above

theorem Node.Open.forgives {n : Node} (opened : n.Open) (suffix : String) : n.Forgives suffix := by
  induction opened with
  | leaf kind =>
    intro above value inside
    cases fit : (Node.leaf kind).fits value with
    | false => exact forgives_of_not_fits fit above
    | true =>
      rw [forgive, findings_leaf fit]
      rfl
  | object fields ih => exact forgives_object ih
  | openArray =>
    intro above value inside
    cases value with
    | array items =>
      rw [forgive, findings_openArray]
      rfl
    | _ => exact forgives_of_not_fits rfl above
  | array each ih => exact forgives_array ih

theorem EnvelopeFault.length_le {body : Value} {path : Location} {kind : IssueKind}
    (fault : EnvelopeFault body path kind) : path.length ≤ 1 := by
  cases fault <;> simp

theorem Issue.forgivenBy_of_paramsOf {suffix : String} {body : Value} {issue : Issue}
    (failed : paramsOf body = .error issue) : issue.forgivenBy suffix = false := by
  have short := (EnvelopeFault.of_paramsOf failed).length_le
  have outside : ¬2 ≤ issue.path.length := by omega
  simp [forgivenBy, outside]

/-- With one more optional suffix a body is reported for the same issues in the same order, without
the keys that it lacks below the parameters and that end in the suffix. What was accepted stays
so. -/
theorem check_addSuffix (t : OverrideTable) (component : String) (spec : Spec) (suffix : String)
    (body : Value) :
    ((Compiler.mk (t.addSuffix suffix) component).compile spec).check body =
      (((Compiler.mk t component).compile spec).check body).filter
        (fun issue => !issue.forgivenBy suffix) ∧
    ∀ params, (((Compiler.mk t component).compile spec).validate body).value = .ok params →
      (((Compiler.mk (t.addSuffix suffix) component).compile spec).validate body).value =
        .ok params := by
  have filtered : ((Compiler.mk (t.addSuffix suffix) component).compile spec).check body =
      (((Compiler.mk t component).compile spec).check body).filter
        (fun issue => !issue.forgivenBy suffix) := by
    cases envelope : paramsOf body with
    | error issue =>
      rw [Validator.check_of_paramsOf_error envelope, Validator.check_of_paramsOf_error envelope]
      simp [Issue.forgivenBy_of_paramsOf envelope]
    | ok params =>
      have opened := (Validator.Compiled.ofSpec (Compiler.mk t component) spec).open
      rw [Validator.check_of_paramsOf_ok envelope, Validator.check_of_paramsOf_ok envelope,
        Compiler.node_compile_addSuffix]
      exact opened.forgives suffix [.key paramsKey] (.object params) (List.cons_ne_nil _ _)
  refine ⟨filtered, fun params valid => ?_⟩
  obtain ⟨clean, envelope⟩ := Validator.value_validate_eq_ok_iff.1 valid
  rw [Validator.value_validate_eq_ok_iff, filtered, clean]
  exact ⟨rfl, envelope⟩

theorem check_addSuffix_rows :
    ((Compiler.mk .standard "table").compile { params := tableParams }).check
        (.object [("params", .object [])]) = [.missing [.key "params", .key "rows"] "array"] ∧
    ((Compiler.mk (OverrideTable.standard.addSuffix "OWS") "table").compile
      { params := tableParams }).check
        (.object [("params", .object [])]) = [] ∧
    (((Compiler.mk (OverrideTable.standard.addSuffix "OWS") "table").compile
      { params := tableParams }).validate plainTable).value =
        .ok [("icon", .null), ("rows", .array [.array [.object [("text", .string "A")]]])] := by
  have before : ((Compiler.mk .standard "table").compile { params := tableParams }).check
      (.object [("params", .object [])]) = [.missing [.key "params", .key "rows"] "array"] := by
    rw [compile_tableParams]
    rfl
  refine ⟨before, ?_, ?_⟩
  · rw [(check_addSuffix .standard "table" { params := tableParams } "OWS" _).1, before]
    decide
  · apply (check_addSuffix .standard "table" { params := tableParams } "OWS" _).2
    rw [compile_tableParams]
    rfl

end ComponentSchema
