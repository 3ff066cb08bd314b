import ComponentSchema.Proofs.FieldTable
import ComponentSchema.Proofs.Reached

/-! The order of a report: depth first along the validator, so that no place is reported twice and
none inside another that is reported. -/

set_option autoImplicit false

namespace ComponentSchema

open Json (Members Value)

/-- One path comes before another, depth first: where they part, it takes the field that is declared
earlier or the smaller index. -/
inductive Node.Before : Node → Location → Location → Prop where
  | fields {declared : List (Field Node)} {allowUnknown : Bool} {one other : String}
      {path path' : Location} (known : other ∈ declared.map (·.name))
      (order : (declared.map (·.name)).idxOf one < (declared.map (·.name)).idxOf other) :
      Before (.object declared allowUnknown) (.key one :: path) (.key other :: path')
  | belowField {declared : List (Field Node)} {allowUnknown : Bool} {f : Field Node}
      {path path' : Location} (member : f ∈ declared) (below : f.node.Before path path') :
      Before (.object declared allowUnknown) (.key f.name :: path) (.key f.name :: path')
  | elements {element : Node} {i j : Nat} {path path' : Location} (order : i < j) :
      Before (.array (some element)) (.index i :: path) (.index j :: path')
  | belowElement {element : Node} {i : Nat} {path path' : Location}
      (below : element.Before path path') :
      Before (.array (some element)) (.index i :: path) (.index i :: path')

theorem Node.Before.not_nested {n : Node} {one other : Location} (before : n.Before one other) :
    ¬one <+: other ∧ ¬other <+: one := by
  induction before with
  | @fields declared _ one other _ _ _ order =>
    have different : one ≠ other := fun same => Nat.lt_irrefl _ (same ▸ order)
    simp [List.cons_prefix_cons, different, different.symm]
  | belowField _ _ ih => simpa [List.cons_prefix_cons] using ih
  | @elements _ i j _ _ order =>
    have different : i ≠ j := by omega
    simp [List.cons_prefix_cons, different, different.symm]
  | belowElement _ ih => simpa [List.cons_prefix_cons] using ih

def Node.Ordered (n : Node) : Prop :=
  ∀ value, ((n.findings value).map (·.path)).Pairwise n.Before

theorem Node.ordered_of_not_fits {n : Node} {value : Value} (unfit : n.fits value = false) :
    ((n.findings value).map (·.path)).Pairwise n.Before := by
  rw [findings_of_not_fits unfit]
  exact List.pairwise_singleton _ _

theorem Node.ordered_leaf (kind : LeafKind) : (Node.leaf kind).Ordered := by
  intro value
  cases fit : (Node.leaf kind).fits value with
  | false => exact ordered_of_not_fits fit
  | true =>
    rw [findings_leaf fit]
    exact .nil

theorem Node.ordered_openArray : (Node.array none).Ordered := by
  intro value
  cases value with
  | array items =>
    rw [findings_openArray]
    exact .nil
  | _ => exact ordered_of_not_fits rfl

theorem Issue.paths_within (segment : Segment) (issues : List Issue) :
    (issues.map (·.within [segment])).map (·.path) = (issues.map (·.path)).map (segment :: ·) := by
  simp [within]

theorem Node.ordered_array {element : Node} (each : element.Ordered) :
    (Node.array (some element)).Ordered := by
  intro value
  cases value with
  | array items =>
    have indices : items.zipIdx.Pairwise fun one other => one.2 < other.2 := by
      rw [← List.pairwise_map, List.zipIdx_map_snd]
      exact List.pairwise_lt_range'
    simp only [findings_array, List.map_flatMap, List.pairwise_flatMap, Issue.paths_within]
    constructor
    · intro (item, i) _
      rw [List.pairwise_map]
      exact (each item).imp .belowElement
    · apply indices.imp
      intro (item, i) (item', j) order one here other there
      obtain ⟨path, -, rfl⟩ := List.mem_map.1 here
      obtain ⟨path', -, rfl⟩ := List.mem_map.1 there
      exact .elements order
  | _ => exact ordered_of_not_fits rfl

/-! ### Objects -/

theorem Field.exists_path_of_mem_findings {f : Field Node} {members : Members} {issue : Issue}
    (found : issue ∈ f.findings members) : ∃ path, issue.path = .key f.name :: path := by
  unfold findings at found
  split at found
  · obtain ⟨inner, -, rfl⟩ := List.mem_map.1 found
    exact ⟨inner.path, rfl⟩
  · split at found
    · rw [List.mem_singleton.1 found]
      exact ⟨[], rfl⟩
    · cases found

theorem Field.pairwise_findings {declared : List (Field Node)} {f : Field Node}
    (member : f ∈ declared) (ordered : f.node.Ordered) (members : Members) :
    ((f.findings members).map (·.path)).Pairwise (Node.object declared true).Before := by
  unfold findings
  split
  · rename_i value _
    rw [Issue.paths_within, List.pairwise_map]
    exact (ordered value).imp (.belowField member)
  · split
    · exact List.pairwise_singleton _ _
    · exact .nil

theorem pairwise_idxOf {names : List String} (distinct : names.Nodup) :
    names.Pairwise fun one other => names.idxOf one < names.idxOf other := by
  rw [List.pairwise_iff_getElem]
  intro i j before within order
  rwa [distinct.idxOf_getElem, distinct.idxOf_getElem]

theorem Node.ordered_object {declared : List (Field Node)}
    (distinct : (declared.map (·.name)).Nodup)
    (each : ∀ f ∈ declared, f.node.Ordered) : (Node.object declared true).Ordered := by
  intro value
  cases value with
  | object members =>
    rw [findings_object, List.map_flatMap, List.pairwise_flatMap]
    constructor
    · exact fun f member => Field.pairwise_findings member (each f member) members
    · apply (List.pairwise_map.1 (pairwise_idxOf distinct)).imp_of_mem
      intro f g _ member order one here other there
      obtain ⟨issue, found, rfl⟩ := List.mem_map.1 here
      obtain ⟨issue', found', rfl⟩ := List.mem_map.1 there
      obtain ⟨path, same⟩ := Field.exists_path_of_mem_findings found
      obtain ⟨path', same'⟩ := Field.exists_path_of_mem_findings found'
      rw [same, same']
      exact .fields (List.mem_map_of_mem member) order
  | _ => exact ordered_of_not_fits rfl

/-- A compiled object has no two fields of a name, whatever it is compiled from. -/
theorem Compiler.ordered_compileNormalized (c : Compiler) (params : List Parameter) :
    (c.compileNormalized params).params.node.Ordered :=
  c.node_induction Node.ordered_leaf Node.ordered_openArray (fun _ => Node.ordered_array)
    (fun params => Node.ordered_object (c.nodup_fields params)) params

theorem Validator.Compiled.ordered {v : Validator} (compiled : v.Compiled) :
    v.envelope.Ordered := by
  apply Node.ordered_object (by simp)
  intro f member
  rw [List.mem_singleton.1 member]
  cases compiled with
  | ofSpec c spec => exact c.ordered_compileNormalized (normalize spec.params)
  | ofList c params => exact c.ordered_compileNormalized params

/-- The paths of a report are strictly increasing in the order of the validator. So no path is
reported twice, and none is the start of another. -/
theorem check_paths_ordered {v : Validator} (compiled : v.Compiled) (body : Value) :
    ((v.check body).map (·.path)).Pairwise v.envelope.Before ∧
      ((v.check body).map (·.path)).Nodup ∧
      ((v.check body).map (·.path)).Pairwise fun one other => ¬one <+: other ∧ ¬other <+: one := by
  have ordered : ((v.check body).map (·.path)).Pairwise v.envelope.Before := by
    rw [Validator.check_eq_findings]
    exact compiled.ordered body
  have apart := ordered.imp Node.Before.not_nested
  refine ⟨ordered, apart.imp ?_, apart⟩
  intro one other apart same
  exact apart.1 (same ▸ List.prefix_rfl)

def faultyTable : Value :=
  .object [("params", .object [("id", .nat 1),
    ("rows", .array [.array [.object [("class", .nat 2), ("text", .string "A")]], .nat 3])])]

/-- The paths go by the declaration, not by the order of the members in the body. -/
theorem check_paths_ordered_repeatedRows :
    ((Compiler.mk .standard "table").compileNormalized repeatedRows).Compiled ∧
    (((Compiler.mk .standard "table").compileNormalized repeatedRows).check faultyTable).map
      (·.path) =
      [[.key "params", .key "rows", .index 0, .index 0, .key "text"],
       [.key "params", .key "rows", .index 0, .index 0, .key "class"],
       [.key "params", .key "rows", .index 1], [.key "params", .key "id"]] ∧
    ((((Compiler.mk .standard "table").compileNormalized repeatedRows).check faultyTable).map
      (·.path)).Pairwise
        ((Compiler.mk .standard "table").compileNormalized repeatedRows).envelope.Before := by
  have compiled : ((Compiler.mk .standard "table").compileNormalized repeatedRows).Compiled :=
    .ofList _ _
  exact ⟨compiled, rfl, (check_paths_ordered compiled faultyTable).1⟩

end ComponentSchema
