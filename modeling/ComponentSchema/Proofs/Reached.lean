import ComponentSchema.Proofs.CompiledFields
import ComponentSchema.Proofs.Findings

/-! Positions that a check reaches, and that a validator reports exactly the faults at these
positions. -/

set_option autoImplicit false

namespace ComponentSchema

open Json (Members Value)

def Json.Value.step? : Value → Segment → Option Value
  | .object members, .key name => members.lookup name
  | .array items, .index i => items[i]?
  | _, _ => none

def Json.Value.at? (value : Value) (path : Location) : Option Value :=
  path.foldlM Json.Value.step? value

/-- The validators that compilers make, of specs and of lists of parameters as they are. -/
inductive Validator.Compiled : Validator → Prop where
  | ofSpec (c : Compiler) (spec : Spec) : Compiled (c.compile spec)
  | ofList (c : Compiler) (params : List Parameter) : Compiled (c.compileNormalized params)

theorem Validator.Compiled.open {v : Validator} (compiled : v.Compiled) : v.params.node.Open := by
  cases compiled with
  | ofSpec c spec => exact c.open_compileNormalized (normalize spec.params)
  | ofList c params => exact c.open_compileNormalized params

/-- The positions of a body that the check of a validator reaches, with node and value there: the
parameters, from an object each present declared field, and from an array each index. -/
inductive Reached (v : Validator) (body : Value) : Location → Node → Value → Prop where
  | root {members params : Members} (envelope : body = .object members)
      (found : members.lookup "params" = some (.object params)) :
      Reached v body [.key "params"] v.params.node (.object params)
  | field {path : Location} {declared : List (Field Node)} {allowUnknown : Bool} {members : Members}
      {f : Field Node} {value : Value}
      (here : Reached v body path (.object declared allowUnknown) (.object members))
      (field : f ∈ declared) (found : members.lookup f.name = some value) :
      Reached v body (path ++ [.key f.name]) f.node value
  | element {path : Location} {element : Node} {items : List Value} {i : Nat} {value : Value}
      (here : Reached v body path (.array (some element)) (.array items))
      (found : items[i]? = some value) : Reached v body (path ++ [.index i]) element value

/-- A body that is not an object with an object of parameters, and the fault that it has instead. -/
inductive EnvelopeFault (body : Value) : Location → IssueKind → Prop where
  | root (unfit : ∀ members, body ≠ .object members) :
      EnvelopeFault body [] (.mismatch "object" body.typeName)
  | params {members : Members} {value : Value} (envelope : body = .object members)
      (found : members.lookup "params" = some value) (unfit : ∀ params, value ≠ .object params) :
      EnvelopeFault body [.key "params"] (.mismatch "object" value.typeName)
  | missing {members : Members} (envelope : body = .object members)
      (absent : members.lookup "params" = none) : EnvelopeFault body [.key "params"] .missing

namespace Reached

variable {v : Validator} {body : Value} {path : Location} {n : Node} {value : Value}

theorem at? (reached : Reached v body path n value) : body.at? path = some value := by
  induction reached with
  | root envelope found => simp [Value.at?, Value.step?, envelope, found]
  | field _ _ found ih =>
    rw [Value.at?] at ih ⊢
    simp [List.foldlM_append, ih, Value.step?, found]
  | element _ found ih =>
    rw [Value.at?] at ih ⊢
    simp [List.foldlM_append, ih, Value.step?, found]

theorem node_open (reached : Reached v body path n value) (root : v.params.node.Open) : n.Open := by
  induction reached with
  | root => exact root
  | field _ member _ ih =>
    cases ih with
    | object fields => exact fields _ member
  | element _ _ ih =>
    cases ih with
    | array each => exact each

theorem within_mem_check (reached : Reached v body path n value) (root : v.params.node.Open)
    {issue : Issue} (found : issue ∈ n.findings value) : issue.within path ∈ v.check body := by
  induction reached generalizing issue with
  | @root members params envelope lookup =>
    have ok : paramsOf body = .ok params := by simp [paramsOf, paramsKey, envelope, lookup]
    rw [Validator.check_of_paramsOf_ok ok]
    exact List.mem_map_of_mem found
  | @field path declared allowUnknown members f value here member lookup ih =>
    cases here.node_open root
    rw [← Issue.within_within]
    refine ih (Node.findings_object declared members ▸ List.mem_flatMap.2 ⟨f, member, ?_⟩)
    rw [Field.findings, lookup]
    exact List.mem_map_of_mem found
  | @element path element items i value here lookup ih =>
    rw [← Issue.within_within]
    refine ih (Node.findings_array element items ▸ List.mem_flatMap.2 ⟨(value, i), ?_, ?_⟩)
    · exact List.mem_zipIdx_iff_getElem?.2 lookup
    · exact List.mem_map_of_mem found

end Reached

/-- The faults at reached positions: a value without the shape of its node, or an absent key. -/
inductive Fault (v : Validator) (body : Value) : Issue → Prop where
  | mismatch {path : Location} {n : Node} {value : Value} (here : Reached v body path n value)
      (unfit : n.fits value = false) : Fault v body (.mismatch path n.expected value)
  | missing {path : Location} {declared : List (Field Node)} {allowUnknown : Bool}
      {members : Members} {f : Field Node}
      (here : Reached v body path (.object declared allowUnknown) (.object members))
      (field : f ∈ declared) (required : f.required = true)
      (absent : members.lookup f.name = none) :
      Fault v body (.missing (path ++ [.key f.name]) f.node.expected)

theorem Fault.mem_check {v : Validator} {body : Value} {issue : Issue} (fault : Fault v body issue)
    (root : v.params.node.Open) : issue ∈ v.check body := by
  cases fault with
  | @mismatch path n value here unfit =>
    have found : Issue.mismatch [] n.expected value ∈ n.findings value := by
      rw [Node.findings_of_not_fits unfit]
      exact List.mem_singleton_self _
    simpa using here.within_mem_check root found
  | @missing path declared allowUnknown members f here field required absent =>
    cases here.node_open root
    have found : Issue.missing [.key f.name] f.node.expected ∈ f.findings members := by
      simp [Field.findings, absent, required]
    have inside : Issue.missing [.key f.name] f.node.expected ∈
        (Node.object declared true).findings (.object members) := by
      rw [Node.findings_object]
      exact List.mem_flatMap.2 ⟨f, field, found⟩
    exact here.within_mem_check root inside

theorem Reached.fault_of_not_fits {v : Validator} {body : Value} {path : Location} {n : Node}
    {value : Value} (here : Reached v body path n value) (unfit : n.fits value = false)
    {issue : Issue} (found : issue ∈ n.findings value) : Fault v body (issue.within path) := by
  rw [Node.findings_of_not_fits unfit, List.mem_singleton] at found
  simpa [found] using Fault.mismatch here unfit

/-- What an open node finds at a reached position are faults. -/
theorem Node.Open.fault {v : Validator} {body : Value} {n : Node} (opened : n.Open)
    {path : Location} {value : Value} (here : Reached v body path n value) {issue : Issue}
    (found : issue ∈ n.findings value) : Fault v body (issue.within path) := by
  induction opened generalizing path value issue with
  | leaf kind =>
    cases fit : (Node.leaf kind).fits value with
    | false => exact here.fault_of_not_fits fit found
    | true =>
      rw [findings_leaf fit] at found
      cases found
  | @object declared fields ih =>
    cases value with
    | object members =>
      rw [findings_object, List.mem_flatMap] at found
      obtain ⟨f, field, found⟩ := found
      rw [Field.findings] at found
      cases lookup : members.lookup f.name with
      | some value =>
        rw [lookup] at found
        obtain ⟨inner, inside, rfl⟩ := List.mem_map.1 found
        rw [Issue.within_within]
        exact ih f field (here.field field lookup) inside
      | none =>
        simp only [lookup] at found
        split at found
        · rename_i required
          rw [List.mem_singleton.1 found]
          exact .missing here field required lookup
        · cases found
    | _ => exact here.fault_of_not_fits rfl found
  | openArray =>
    cases value with
    | array items =>
      rw [findings_openArray] at found
      cases found
    | _ => exact here.fault_of_not_fits rfl found
  | @array element each ih =>
    cases value with
    | array items =>
      rw [findings_array, List.mem_flatMap] at found
      obtain ⟨⟨item, i⟩, index, found⟩ := found
      obtain ⟨inner, inside, rfl⟩ := List.mem_map.1 found
      rw [Issue.within_within]
      exact ih (here.element (List.mem_zipIdx_iff_getElem?.1 index)) inside
    | _ => exact here.fault_of_not_fits rfl found

/-! ### Envelopes -/

theorem EnvelopeFault.of_paramsOf {body : Value} {issue : Issue}
    (failed : paramsOf body = .error issue) :
    EnvelopeFault body issue.path issue.kind := by
  cases body with
  | object members =>
    rw [paramsOf, paramsKey] at failed
    cases found : members.lookup "params" with
    | none =>
      rw [found] at failed
      cases failed
      exact .missing rfl found
    | some value =>
      rw [found] at failed
      cases value with
      | object params => cases failed
      | _ =>
        cases failed
        exact .params rfl found (by simp)
  | _ =>
    cases failed
    exact .root (by simp)

theorem EnvelopeFault.paramsOf_eq {body : Value} {path : Location} {kind : IssueKind}
    (fault : EnvelopeFault body path kind) :
    ∃ issue, paramsOf body = .error issue ∧ issue.path = path ∧ issue.kind = kind := by
  cases fault with
  | root unfit =>
    cases body with
    | object members => exact absurd rfl (unfit members)
    | _ => exact ⟨_, rfl, rfl, rfl⟩
  | @params members value envelope found unfit =>
    subst envelope
    rw [paramsOf, paramsKey, found]
    cases value with
    | object params => exact absurd rfl (unfit params)
    | _ => exact ⟨_, rfl, rfl, rfl⟩
  | missing envelope absent =>
    subst envelope
    rw [paramsOf, paramsKey, absent]
    exact ⟨_, rfl, rfl, rfl⟩

theorem EnvelopeFault.kind_ne {body : Value} {path : Location} {kind : IssueKind}
    (fault : EnvelopeFault body path kind) : kind ≠ .unrecognized := by
  cases fault <;> exact fun same => nomatch same

theorem exists_envelopeFault_iff {body : Value} :
    (∃ path kind, EnvelopeFault body path kind) ↔
      ¬∃ params members, body = .object members ∧
        members.lookup "params" = some (.object params) := by
  simp only [← paramsOf_eq_ok_iff]
  constructor
  · rintro ⟨path, kind, fault⟩ ⟨params, ok⟩
    obtain ⟨issue, failed, _⟩ := fault.paramsOf_eq
    rw [failed] at ok
    cases ok
  · intro refused
    cases found : paramsOf body with
    | error issue => exact ⟨_, _, .of_paramsOf found⟩
    | ok params => exact absurd ⟨params, found⟩ refused

/-- A report holds exactly the faults at reached positions, or the fault of the envelope. -/
theorem Validator.mem_check_iff_fault {v : Validator} (root : v.params.node.Open) {body : Value}
    {issue : Issue} : issue ∈ v.check body ↔ Fault v body issue ∨ paramsOf body = .error issue := by
  constructor
  · intro reported
    cases found : paramsOf body with
    | error fault =>
      rw [check_of_paramsOf_error found, List.mem_singleton] at reported
      exact .inr (by rw [reported])
    | ok params =>
      rw [check_of_paramsOf_ok found] at reported
      obtain ⟨inner, inside, rfl⟩ := List.mem_map.1 reported
      obtain ⟨members, envelope, lookup⟩ := paramsOf_eq_ok_iff.1 found
      exact .inl (root.fault (.root envelope lookup) inside)
  · rintro (fault | failed)
    · exact fault.mem_check root
    · rw [check_of_paramsOf_error failed]
      exact List.mem_singleton_self issue

section

variable {v : Validator} {body : Value} {path : Location}

theorem Validator.mismatch_reported_iff (root : v.params.node.Open) {expected received : String} :
    (∃ issue ∈ v.check body, issue.path = path ∧ issue.kind = .mismatch expected received) ↔
      (∃ n value, Reached v body path n value ∧ n.fits value = false ∧ body.at? path = some value ∧
        expected = n.expected ∧ received = value.typeName) ∨
      EnvelopeFault body path (.mismatch expected received) := by
  constructor
  · rintro ⟨issue, reported, rfl, kind⟩
    rcases (mem_check_iff_fault root).1 reported with fault | failed
    · cases fault with
      | mismatch here unfit =>
        cases kind
        exact .inl ⟨_, _, here, unfit, here.at?, rfl, rfl⟩
      | missing => cases kind
    · exact .inr (kind ▸ EnvelopeFault.of_paramsOf failed)
  · rintro (⟨n, value, here, unfit, _, rfl, rfl⟩ | fault)
    · exact ⟨_, (mem_check_iff_fault root).2 (.inl (.mismatch here unfit)), rfl, rfl⟩
    · obtain ⟨issue, failed, path, kind⟩ := fault.paramsOf_eq
      exact ⟨issue, (mem_check_iff_fault root).2 (.inr failed), path, kind⟩

theorem Validator.missing_reported_iff (root : v.params.node.Open) :
    (∃ issue ∈ v.check body, issue.path = path ∧ issue.kind = .missing) ↔
      (∃ above declared allowUnknown members f,
        Reached v body above (.object declared allowUnknown) (.object members) ∧ f ∈ declared ∧
        f.required = true ∧ members.lookup f.name = none ∧ path = above ++ [.key f.name]) ∨
      EnvelopeFault body path .missing := by
  constructor
  · rintro ⟨issue, reported, rfl, kind⟩
    rcases (mem_check_iff_fault root).1 reported with fault | failed
    · cases fault with
      | mismatch => cases kind
      | missing here field required absent =>
        exact .inl ⟨_, _, _, _, _, here, field, required, absent, rfl⟩
    · exact .inr (kind ▸ EnvelopeFault.of_paramsOf failed)
  · rintro (⟨above, declared, allowUnknown, members, f, here, field, required, absent, rfl⟩ | fault)
    · exact ⟨_, (mem_check_iff_fault root).2 (.inl (.missing here field required absent)), rfl, rfl⟩
    · obtain ⟨issue, failed, path, kind⟩ := fault.paramsOf_eq
      exact ⟨issue, (mem_check_iff_fault root).2 (.inr failed), path, kind⟩

theorem Validator.kind_ne_unrecognized (root : v.params.node.Open) {issue : Issue}
    (reported : issue ∈ v.check body) : issue.kind ≠ .unrecognized := by
  rcases (mem_check_iff_fault root).1 reported with fault | failed
  · cases fault <;> exact fun same => nomatch same
  · exact (EnvelopeFault.of_paramsOf failed).kind_ne

end

/-- A report of a compiled validator is exact. A mismatch stands exactly at the reached positions
where the value does not have the shape of its node, a missing key exactly where a reached object
lacks a required field; otherwise there is only the fault of a body without parameters, alone. -/
theorem exact_reports {v : Validator} (compiled : v.Compiled) (body : Value) :
    (∀ path expected received,
      (∃ issue ∈ v.check body, issue.path = path ∧ issue.kind = .mismatch expected received) ↔
        (∃ n value, Reached v body path n value ∧ n.fits value = false ∧
          body.at? path = some value ∧
          expected = n.expected ∧ received = value.typeName) ∨
        EnvelopeFault body path (.mismatch expected received)) ∧
    (∀ path,
      (∃ issue ∈ v.check body, issue.path = path ∧ issue.kind = .missing) ↔
        (∃ above declared allowUnknown members f,
          Reached v body above (.object declared allowUnknown) (.object members) ∧ f ∈ declared ∧
          f.required = true ∧ members.lookup f.name = none ∧ path = above ++ [.key f.name]) ∨
        EnvelopeFault body path .missing) ∧
    (∀ issue ∈ v.check body, issue.kind ≠ .unrecognized) ∧
    (∀ path kind, EnvelopeFault body path kind →
      ∃ issue, v.check body = [issue] ∧ issue.path = path ∧ issue.kind = kind) ∧
    ((∃ path kind, EnvelopeFault body path kind) ↔
      ¬∃ params members, body = .object members ∧
        members.lookup "params" = some (.object params)) := by
  have root := compiled.open
  refine ⟨fun path expected received => Validator.mismatch_reported_iff root,
    fun path => Validator.missing_reported_iff root,
    fun issue reported => Validator.kind_ne_unrecognized root reported, ?_,
      exists_envelopeFault_iff⟩
  intro path kind fault
  obtain ⟨issue, failed, path, kind⟩ := fault.paramsOf_eq
  exact ⟨issue, Validator.check_of_paramsOf_error failed, path, kind⟩

def itemsValidator : Validator :=
  Compiler.compileNormalized { overrides := .empty, component := "list" }
    [{ name := "items", type := .array,
       params := some [{ name := "value", type := .string, required := true }] }]

def faultyItems : Value :=
  .object [("params", .object [("items", .array [.object [], .object [("value", .nat 2)]])])]

theorem exact_reports_faultyItems :
    itemsValidator.Compiled ∧
    (∃ issue ∈ itemsValidator.check faultyItems,
      issue.path = [.key "params", .key "items", .index 0, .key "value"] ∧ issue.kind = .missing) ∧
    (∃ issue ∈ itemsValidator.check faultyItems,
      issue.path = [.key "params", .key "items", .index 1, .key "value"] ∧
      issue.kind = .mismatch "string" "number") := by
  have compiled : itemsValidator.Compiled := .ofList _ _
  have root : Reached itemsValidator faultyItems [.key "params"] _ _ := .root rfl rfl
  have items := root.field (List.mem_singleton_self _) (show _ = some _ from rfl)
  refine ⟨compiled, ?_, ?_⟩
  · exact ((exact_reports compiled faultyItems).2.1 _).2 (.inl ⟨_, _, _, _, _,
      items.element (i := 0) rfl, List.mem_singleton_self _, rfl, rfl, rfl⟩)
  · exact ((exact_reports compiled faultyItems).1 _ _ _).2 (.inl ⟨_, _,
      (items.element (i := 1) rfl).field (List.mem_singleton_self _) rfl, rfl, rfl, rfl, rfl⟩)

end ComponentSchema
