import Mathlib.Data.List.Basic
import ComponentSchema.Proofs.NormalForm
import ComponentSchema.Proofs.Reached

/-! Bodies that agree on the data that a validator declares: what else they hold changes neither the
report nor the verdict. -/

set_option autoImplicit false

namespace ComponentSchema

open Json (Members Value)

/-- Two values agree on what a node declares. Below objects only the declared members are compared,
arrays without an element check and values that may be anything are not looked into, and all other
values are equal. -/
inductive Node.Agree : Node → Value → Value → Prop where
  | object {declared : List (Field Node)} {allowUnknown : Bool} {first second : Members}
      (absent : ∀ f ∈ declared, first.lookup f.name = none ↔ second.lookup f.name = none)
      (present : ∀ f ∈ declared, ∀ one other, first.lookup f.name = some one →
        second.lookup f.name = some other → f.node.Agree one other) :
      Agree (.object declared allowUnknown) (.object first) (.object second)
  | array {element : Node} {first second : List Value} (sizes : first.length = second.length)
      (each : ∀ (i : Nat) (one other : Value), first[i]? = some one → second[i]? = some other →
        element.Agree one other) :
      Agree (.array (some element)) (.array first) (.array second)
  | openArray (first second : List Value) : Agree (.array none) (.array first) (.array second)
  | any (first second : Value) : Agree (.leaf .any) first second
  | leaf (kind : LeafKind) (value : Value) : Agree (.leaf kind) value value
  | unfit {n : Node} {value : Value} (unfit : n.fits value = false) : Agree n value value

/-- Two request bodies agree on the declared parameters. Their other members are not compared. -/
def Validator.Agree (v : Validator) (first second : Value) : Prop :=
  v.envelope.Agree first second

theorem Node.Agree.of_present {declared : List (Field Node)} {allowUnknown : Bool}
    {first second : Members} (each : ∀ f ∈ declared, ∃ one other,
      first.lookup f.name = some one ∧ second.lookup f.name = some other ∧ f.node.Agree one other) :
    (Node.object declared allowUnknown).Agree (.object first) (.object second) := by
  apply Node.Agree.object
  · intro f member
    obtain ⟨one, other, here, there, -⟩ := each f member
    simp [here, there]
  · intro f member one' other' here' there'
    obtain ⟨one, other, here, there, agree⟩ := each f member
    cases here.symm.trans here'
    cases there.symm.trans there'
    exact agree

theorem Node.Agree.singleton {element : Node} {one other : Value}
    (agree : element.Agree one other) :
    (Node.array (some element)).Agree (.array [one]) (.array [other]) := by
  apply Node.Agree.array
  · rfl
  · intro i here there found found'
    cases i with
    | zero =>
      cases found
      cases found'
      exact agree
    | succ i => cases found

theorem Field.findings_eq_of_agree {f : Field Node} {first second : Members}
    (absent : first.lookup f.name = none ↔ second.lookup f.name = none)
    (present : ∀ one other, first.lookup f.name = some one → second.lookup f.name = some other →
      f.node.findings one = f.node.findings other) : f.findings first = f.findings second := by
  unfold findings
  cases one : first.lookup f.name with
  | none => rw [absent.1 one]
  | some value =>
    cases other : second.lookup f.name with
    | none => exact absurd (absent.2 other) (by simp [one])
    | some value' => simp only [present value value' one other]

theorem Node.findings_array_eq_of_map {element : Node} {first second : List Value}
    (same : first.map element.findings = second.map element.findings) :
    (array (some element)).findings (.array first) =
      (array (some element)).findings (.array second) := by
  have numbered (items : List Value) : (array (some element)).findings (.array items) =
      (items.map element.findings).zipIdx.flatMap fun (issues, i) =>
        issues.map (·.within [.index i]) := by
    rw [findings_array, List.zipIdx_map, List.flatMap_map]
    rfl
  rw [numbered, numbered, same]

/-- An open node finds the same in values that agree. -/
theorem Node.Open.findings_eq_of_agree {n : Node} (opened : n.Open) {first second : Value}
    (agree : n.Agree first second) : n.findings first = n.findings second := by
  induction opened generalizing first second with
  | leaf kind =>
    cases agree with
    | any => rw [findings_any, findings_any]
    | _ => rfl
  | @object declared fields ih =>
    cases agree with
    | object absent present =>
      rw [findings_object, findings_object]
      apply List.flatMap_congr
      intro f member
      apply Field.findings_eq_of_agree (absent f member)
      intro one other here there
      exact ih f member (present f member one other here there)
    | unfit => rfl
  | openArray =>
    cases agree with
    | openArray first second => rw [findings_openArray, findings_openArray]
    | unfit => rfl
  | @array element each ih =>
    cases agree with
    | @array _ first second sizes agree =>
      apply findings_array_eq_of_map
      apply List.ext_getElem (by simp [sizes])
      intro i here there
      rw [List.getElem_map, List.getElem_map]
      rw [List.length_map] at here there
      exact ih (agree i _ _ (List.getElem?_eq_getElem here) (List.getElem?_eq_getElem there))
    | unfit => rfl

theorem Validator.open_envelope {v : Validator} (root : v.params.node.Open) : v.envelope.Open := by
  apply Node.Open.object
  intro f member
  rw [List.mem_singleton.1 member]
  exact root

def Validator.verdict (v : Validator) (body : Value) : Except (List Issue) Unit :=
  (v.validate body).value.map fun _ => ()

theorem Validator.verdict_eq (v : Validator) (body : Value) :
    v.verdict body = if v.check body = [] then .ok () else .error (v.check body) := by
  rw [verdict, value_validate, accepted]
  cases found : paramsOf body with
  | error issue =>
    rw [check_of_paramsOf_error found]
    rfl
  | ok params => cases v.check body <;> rfl

/-- What a spec does not declare has no influence: bodies that agree on the declared parameters have
the same issues, and both pass or both are refused. -/
theorem check_eq_of_agree (t : OverrideTable) (component : String) (spec : Spec)
    {first second : Value} (agree : ((Compiler.mk t component).compile spec).Agree first second) :
    ((Compiler.mk t component).compile spec).check first =
      ((Compiler.mk t component).compile spec).check second ∧
    ((Compiler.mk t component).compile spec).verdict first =
      ((Compiler.mk t component).compile spec).verdict second := by
  have root := (Validator.Compiled.ofSpec (Compiler.mk t component) spec).open
  have same : ((Compiler.mk t component).compile spec).check first =
      ((Compiler.mk t component).compile spec).check second := by
    rw [Validator.check_eq_findings, Validator.check_eq_findings]
    exact (Validator.open_envelope root).findings_eq_of_agree agree
  rw [Validator.verdict_eq, Validator.verdict_eq, same]
  exact ⟨rfl, rfl⟩

theorem compile_tableParams : (Compiler.mk .standard "table").compile { params := tableParams } =
    { component := "table"
      params := { fields := [
        { name := "rows", required := true
          node := .array (some (.array (some (.object
            [{ name := "text", required := false, node := .leaf .string }] true)))) },
        { name := "icon", required := false, node := .leaf .any }] } } := by
  rw [Compiler.compile, normal_tableParams.normalize_eq]
  rfl

def plainTable : Value :=
  .object [("params", .object [("icon", .null),
    ("rows", .array [.array [.object [("text", .string "A")]]])])]

/-- The same cell, with a class that no cell declares, another icon and a member beside the
parameters. -/
def styledTable : Value :=
  .object [("page", .nat 2), ("params", .object [("icon", .string "bin"), ("id", .string "t"),
    ("rows", .array [.array [.object [("class", .string "wide"), ("text", .string "A")]]])])]

theorem check_eq_of_agree_tables :
    ((Compiler.mk .standard "table").compile { params := tableParams }).Agree
      plainTable styledTable ∧
    ((Compiler.mk .standard "table").compile { params := tableParams }).check plainTable =
      ((Compiler.mk .standard "table").compile { params := tableParams }).check styledTable := by
  have agree : ((Compiler.mk .standard "table").compile { params := tableParams }).Agree
      plainTable styledTable := by
    rw [compile_tableParams]
    apply Node.Agree.of_present
    intro f member
    cases List.mem_singleton.1 member
    refine ⟨_, _, rfl, rfl, ?_⟩
    apply Node.Agree.of_present
    intro f member
    rcases List.mem_cons.1 member with rfl | member
    · refine ⟨_, _, rfl, rfl, ?_⟩
      apply Node.Agree.singleton
      apply Node.Agree.singleton
      apply Node.Agree.of_present
      intro f member
      cases List.mem_singleton.1 member
      exact ⟨_, _, rfl, rfl, .leaf .string _⟩
    · cases List.mem_singleton.1 member
      exact ⟨_, _, rfl, rfl, .any _ _⟩
  exact ⟨agree, (check_eq_of_agree .standard "table" { params := tableParams } agree).1⟩

end ComponentSchema
