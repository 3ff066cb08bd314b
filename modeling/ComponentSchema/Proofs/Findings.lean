import ComponentSchema.Checking

/-! Findings: a walk through a value only adds issues below where it starts, so what it finds does
not depend on the path to there or on what was found before. -/

set_option autoImplicit false

namespace ComponentSchema

@[simp] theorem Issue.within_mismatch (path inner : Location) (expected : String)
    (value : Json.Value) :
    (Issue.mismatch inner expected value).within path =
      .mismatch (path ++ inner) expected value := rfl

@[simp] theorem Issue.within_missing (path inner : Location) (expected : String) :
    (Issue.missing inner expected).within path = .missing (path ++ inner) expected := rfl

@[simp] theorem Issue.within_unrecognized (path inner : Location) :
    (Issue.unrecognized inner).within path = .unrecognized (path ++ inner) := rfl

theorem Issue.within_within (outer inner : Location) (issue : Issue) :
    (issue.within inner).within outer = issue.within (outer ++ inner) := by
  simp [within]

theorem Issue.within_nil (issue : Issue) : issue.within [] = issue := rfl

namespace Walk

/-- The walk with issues that were found from its place on. -/
def extend (w : Walk) (found : List Issue) : Walk :=
  { w with issues := w.issues ++ (found.map (·.within w.path)).toArray }

def found (step : Walk → Walk) : List Issue :=
  (step {}).issues.toList

/-- A step that comes back to its place, and from any place adds the same issues. -/
def Finds (step : Walk → Walk) (issues : List Issue) : Prop :=
  ∀ w, step w = w.extend issues

theorem Finds.found_eq {step : Walk → Walk} {issues : List Issue} (finds : Finds step issues) :
    found step = issues := by
  have same : (fun issue : Issue => issue.within []) = id := funext Issue.within_nil
  simp [found, finds {}, extend, same]

theorem Finds.found {step : Walk → Walk} {issues : List Issue} (finds : Finds step issues) :
    Finds step (found step) := by
  rw [finds.found_eq]
  exact finds

/-! ### Steps -/

theorem extend_extend (w : Walk) (first second : List Issue) :
    (w.extend first).extend second = w.extend (first ++ second) := by
  simp [extend, List.map_append]

theorem finds_nothing : Finds (fun w => w) [] :=
  fun w => by simp [extend]

theorem Finds.comp {first second : Walk → Walk} {earlier later : List Issue}
    (finds : Finds first earlier) (after : Finds second later) :
    Finds (fun w => second (first w)) (earlier ++ later) := by
  intro w
  change second (first w) = _
  rw [finds, after, extend_extend]

theorem Finds.below {step : Walk → Walk} {issues : List Issue} (finds : Finds step issues)
    (segment : Segment) :
    Finds (fun w => (step (w.enter segment)).leave) (issues.map (·.within [segment])) := by
  intro w
  change (step (w.enter segment)).leave = _
  rw [finds]
  simp [extend, enter, leave, Issue.within_within, Function.comp_def]

theorem finds_mismatch (expected : String) (value : Json.Value) :
    Finds (fun w => w.report fun path => .mismatch path expected value)
      [.mismatch [] expected value] :=
  fun w => by simp [report, extend]

theorem finds_missing (expected : String) :
    Finds (fun w => w.report fun path => .missing path expected) [.missing [] expected] :=
  fun w => by simp [report, extend]

theorem finds_unrecognized (declared : List String) (members : Json.Members) :
    Finds (unrecognized declared members)
      ((members.filter fun member => !declared.contains member.1).map fun member =>
        .unrecognized [.key member.1]) := by
  induction members with
  | nil => exact finds_nothing
  | cons member rest ih =>
    obtain ⟨key, value⟩ := member
    intro w
    by_cases known : declared.contains key = true
    · rw [unrecognized, if_pos known, List.filter_cons_of_neg (by simpa using known)]
      exact ih w
    · have stranger : Finds (fun w => w.report Issue.unrecognized) [.unrecognized []] :=
        fun w => by simp [report, extend]
      rw [unrecognized, if_neg known, List.filter_cons_of_pos (by simpa using known), List.map_cons]
      exact (stranger.below (.key key)).comp ih w

theorem finds_elements {check : Json.Value → Walk → Walk} {issues : Json.Value → List Issue}
    (finds : ∀ value, Finds (check value) (issues value)) (items : List Json.Value) (index : Nat) :
    Finds (elements check index items)
      ((items.zipIdx index).flatMap fun (item, i) => (issues item).map (·.within [.index i])) := by
  induction items generalizing index with
  | nil => exact finds_nothing
  | cons item rest ih =>
    rw [List.zipIdx_cons, List.flatMap_cons]
    exact ((finds item).below (.index index)).comp (ih (index + 1))

end Walk

/-! ### Findings of checks -/

def Node.findings (n : Node) (value : Json.Value) : List Issue :=
  Walk.found (Walk.node n value)

def Field.findings (f : Field Node) (members : Json.Members) : List Issue :=
  match members.lookup f.name with
  | some value => (f.node.findings value).map (·.within [.key f.name])
  | none => if f.required then [.missing [.key f.name] f.node.expected] else []

namespace Walk

theorem finds_field {f : Field Node} (members : Json.Members)
    (finds : ∀ value, Finds (node f.node value) (f.node.findings value)) :
    Finds (fun w =>
      (match members.lookup f.name with
        | some value => node f.node value (w.enter (.key f.name))
        | none =>
          if f.required then (w.enter (.key f.name)).report
            fun path => .missing path f.node.expected
          else w.enter (.key f.name)).leave)
      (f.findings members) := by
  unfold Field.findings
  cases members.lookup f.name with
  | some value => exact (finds value).below (.key f.name)
  | none =>
    by_cases required : f.required = true
    · simpa [required] using (finds_missing f.node.expected).below (.key f.name)
    · simpa [required] using finds_nothing.below (.key f.name)

mutual

theorem finds_node : (n : Node) → (value : Json.Value) → Finds (node n value) (n.findings value)
  | .leaf kind, value => by
    by_cases accepted : kind.accepts value = true
    · have clean : Finds (node (.leaf kind) value) [] := fun w => by
        rw [node, if_pos accepted]
        exact finds_nothing w
      exact clean.found
    · have fault : Finds (node (.leaf kind) value) [.mismatch [] kind.expected value] := fun w => by
        rw [node, if_neg accepted]
        exact finds_mismatch kind.expected value w
      exact fault.found
  | .object declared allowUnknown, value => by
    cases value with
    | object members =>
      have fields := finds_fields declared members
      cases allowUnknown with
      | true => exact fields.found
      | false => exact (fields.comp (finds_unrecognized (declared.map (·.name)) members)).found
    | _ => exact (finds_mismatch "object" _).found
  | .array none, value => by
    cases value with
    | array items => exact finds_nothing.found
    | _ => exact (finds_mismatch "array" _).found
  | .array (some element), value => by
    cases value with
    | array items => exact (finds_elements (finds_node element) items 0).found
    | _ => exact (finds_mismatch "array" _).found

theorem finds_fields : (declared : List (Field Node)) → (members : Json.Members) →
    Finds (fields declared members) (declared.flatMap (·.findings members))
  | [], _ => finds_nothing
  | ⟨name, required, check⟩ :: rest, members =>
    (finds_field (f := ⟨name, required, check⟩) members (finds_node check)).comp
      (finds_fields rest members)

end

/-! ### Places -/

/-- A step that does not depend on where it is taken: it comes back to its place, and behind the
issues found before it adds those of a fresh start, with the same kinds and messages, seen from that
place. -/
structure Equivariant (step : Walk → Walk) : Prop where
  path : ∀ w, (step w).path = w.path
  issues : ∀ w, (step w).issues.toList =
    w.issues.toList ++
      (step {}).issues.toList.map fun issue => { issue with path := w.path ++ issue.path }

theorem Finds.equivariant {step : Walk → Walk} {issues : List Issue} (finds : Finds step issues) :
    Equivariant step where
  path w := by rw [finds, extend]
  issues w := by
    have fresh : (step {}).issues.toList = issues := finds.found_eq
    rw [fresh, finds, extend, Array.toList_append]
    rfl

def object (o : ObjectNode) (members : Json.Members) (w : Walk) : Walk :=
  let w := fields o.fields members w
  if o.allowUnknown then w else unrecognized (o.fields.map (·.name)) members w

theorem node_object (o : ObjectNode) (members : Json.Members) :
    node o.node (.object members) = object o members := rfl

/-- Checking a value, or the members of an object, leaves the path as it was and keeps the issues
found before. What it adds is the same from every place, up to the path to there. -/
theorem walk_equivariant :
    (∀ (n : Node) (value : Json.Value), Equivariant (node n value)) ∧
    ∀ (o : ObjectNode) (members : Json.Members), Equivariant (object o members) := by
  refine ⟨fun n value => (finds_node n value).equivariant, fun o members => ?_⟩
  rw [← node_object]
  exact (finds_node o.node (.object members)).equivariant

/-- A closed object, with a field that is missing and a member that is not declared. -/
example :
    object { fields := [⟨"id", true, .leaf .string⟩], allowUnknown := false } [("code", .null)]
      { path := [.key "params", .index 2], issues := #[.missing [] "object"] } =
    { path := [.key "params", .index 2]
      issues := #[.missing [] "object", .missing [.key "params", .index 2, .key "id"] "string",
        .unrecognized [.key "params", .index 2, .key "code"]] } := rfl

end Walk

namespace Node

/-- Whether a value has the shape of a node, whatever its parts are: a leaf accepts it, an object
stands under an object node, an array under an array node. -/
def fits : Node → Json.Value → Bool
  | .leaf kind, value => kind.accepts value
  | .object .., .object _ => true
  | .array _, .array _ => true
  | _, _ => false

theorem findings_of_not_fits {n : Node} {value : Json.Value} (unfit : n.fits value = false) :
    n.findings value = [.mismatch [] n.expected value] := by
  apply Walk.Finds.found_eq
  intro w
  rw [← Walk.finds_mismatch]
  cases n with
  | leaf kind =>
    rw [fits] at unfit
    simp [Walk.node, unfit, expected]
  | object declared allowUnknown =>
    cases value with
    | object members => cases unfit
    | _ => rfl
  | array element =>
    cases value with
    | array items => cases unfit
    | _ => cases element <;> rfl

theorem findings_leaf {kind : LeafKind} {value : Json.Value}
    (accepted : kind.accepts value = true) :
    (leaf kind).findings value = [] := by
  apply Walk.Finds.found_eq
  intro w
  rw [Walk.node, if_pos accepted]
  exact Walk.finds_nothing w

theorem findings_object (declared : List (Field Node)) (members : Json.Members) :
    (object declared true).findings (.object members) = declared.flatMap (·.findings members) :=
  (Walk.finds_fields declared members).found_eq

theorem findings_openArray (items : List Json.Value) : (array none).findings (.array items) = [] :=
  Walk.finds_nothing.found_eq

theorem findings_array (element : Node) (items : List Json.Value) :
    (array (some element)).findings (.array items) =
      items.zipIdx.flatMap fun (item, i) => (element.findings item).map (·.within [.index i]) :=
  (Walk.finds_elements (Walk.finds_node element) items 0).found_eq

theorem fits_of_findings_eq_nil {n : Node} {value : Json.Value} (clean : n.findings value = []) :
    n.fits value = true := by
  cases fit : n.fits value with
  | true => rfl
  | false =>
    rw [findings_of_not_fits fit] at clean
    cases clean

theorem findings_leaf_eq_nil_iff {kind : LeafKind} {value : Json.Value} :
    (leaf kind).findings value = [] ↔ kind.accepts value = true :=
  ⟨fits_of_findings_eq_nil, findings_leaf⟩

theorem findings_boolean_eq_nil_iff {value : Json.Value} :
    (leaf .boolean).findings value = [] ↔ ∃ b, value = .boolean b := by
  rw [findings_leaf_eq_nil_iff]
  cases value <;> simp [LeafKind.accepts]

theorem findings_text_eq_nil_iff {kind : LeafKind} (text : kind = .string ∨ kind = .block)
    {value : Json.Value} : (leaf kind).findings value = [] ↔ ∃ s, value = .string s := by
  rw [findings_leaf_eq_nil_iff]
  rcases text with rfl | rfl <;> cases value <;> simp [LeafKind.accepts]

theorem findings_integer_eq_nil_iff {value : Json.Value} :
    (leaf .integer).findings value = [] ↔ ∃ n, value = .number n ∧ n.isSafeInteger = true := by
  rw [findings_leaf_eq_nil_iff]
  cases value <;> simp [LeafKind.accepts]

theorem findings_any {value : Json.Value} : (leaf .any).findings value = [] := by
  rw [findings_leaf_eq_nil_iff]
  cases value <;> rfl

theorem findings_object_eq_nil_iff {declared : List (Field Node)} {value : Json.Value} :
    (object declared true).findings value = [] ↔
      ∃ members, value = .object members ∧ ∀ f ∈ declared, f.findings members = [] := by
  cases value with
  | object members => simp [findings_object]
  | _ => exact iff_of_false (fun clean => nomatch fits_of_findings_eq_nil clean) (by simp)

theorem findings_openArray_eq_nil_iff {value : Json.Value} :
    (array none).findings value = [] ↔ ∃ items, value = .array items := by
  cases value with
  | array items => simp [findings_openArray]
  | _ => exact iff_of_false (fun clean => nomatch fits_of_findings_eq_nil clean) (by simp)

theorem findings_array_eq_nil_iff {element : Node} {value : Json.Value} :
    (array (some element)).findings value = [] ↔
      ∃ items, value = .array items ∧ ∀ item ∈ items, element.findings item = [] := by
  cases value with
  | array items =>
    simp only [findings_array, List.flatMap_eq_nil_iff, List.map_eq_nil_iff, Json.Value.array.injEq]
    constructor
    · intro clean
      refine ⟨items, rfl, fun item member => ?_⟩
      obtain ⟨i, bound, same⟩ := List.mem_iff_getElem.1 member
      exact clean (item, i) (by simp [List.mem_zipIdx_iff_getElem?, ← same])
    · rintro ⟨_, rfl, clean⟩ ⟨item, i⟩ member
      exact clean item (List.fst_mem_of_mem_zipIdx member)
  | _ => exact iff_of_false (fun clean => nomatch fits_of_findings_eq_nil clean) (by simp)

end Node

theorem Field.findings_eq_nil_iff {f : Field Node} {members : Json.Members} :
    f.findings members = [] ↔
      (∀ value, members.lookup f.name = some value → f.node.findings value = []) ∧
        (members.lookup f.name = none → f.required = false) := by
  unfold findings
  cases members.lookup f.name <;> simp

/-! ### Bodies -/

theorem paramsOf_eq_ok_iff {body : Json.Value} {params : Json.Members} :
    paramsOf body = .ok params ↔
      ∃ members, body = .object members ∧ members.lookup "params" = some (.object params) := by
  cases body with
  | object members =>
    simp only [paramsOf, paramsKey, Json.Value.object.injEq, exists_eq_left']
    cases members.lookup "params" with
    | none => simp
    | some value => cases value <;> simp
  | _ => simp [paramsOf]

/-- A validator reports the findings of its root, from the parameters of the body on. -/
theorem Validator.check_of_paramsOf_ok {v : Validator} {body : Json.Value} {params : Json.Members}
    (found : paramsOf body = .ok params) :
    v.check body = (v.params.node.findings (.object params)).map (·.within [.key paramsKey]) := by
  rw [check, found]
  change (Walk.object v.params params { path := [.key paramsKey] }).issues.toList = _
  rw [← Walk.node_object, Walk.finds_node]
  simp [Walk.extend]

theorem Validator.check_of_paramsOf_error {v : Validator} {body : Json.Value} {issue : Issue}
    (found : paramsOf body = .error issue) : v.check body = [issue] := by
  rw [check, found]

def Validator.envelope (v : Validator) : Node :=
  .object [{ name := paramsKey, required := true, node := v.params.node }] true

theorem Validator.check_eq_findings (v : Validator) (body : Json.Value) :
    v.check body = v.envelope.findings body := by
  cases body with
  | object members =>
    rw [envelope, Node.findings_object, List.flatMap_singleton, Field.findings]
    cases found : members.lookup paramsKey with
    | none =>
      rw [check, paramsOf, found]
      rfl
    | some value =>
      cases value with
      | object params => exact check_of_paramsOf_ok (by rw [paramsOf, found])
      | _ =>
        rw [check, paramsOf, found]
        change _ = (v.params.node.findings _).map _
        rw [Node.findings_of_not_fits rfl]
        rfl
  | _ =>
    rw [envelope, Node.findings_of_not_fits rfl]
    exact check_of_paramsOf_error rfl

theorem Validator.value_validate (v : Validator) (body : Json.Value) :
    (v.validate body).value = v.accepted body := by
  unfold validate
  cases v.accepted body <;> rfl

end ComponentSchema
