import ComponentSchema.Spec.Document
import ComponentSchema.Spec.Encoding
import ComponentSchema.Proofs.GenuineTypes

/-! Specs as they are written: every genuine one is read back from its members, in whichever order
they stand. -/

set_option autoImplicit false

namespace ComponentSchema

open Json (Members Value)

/-- The value is an object of the members of a parameter, in any order and with others beside
them. -/
inductive Parameter.Written : Parameter → Value → Prop where
  | intro {p : Parameter} {members : Members} {items : List Value}
      (distinct : (members.map Prod.fst).Nodup)
      (name : members.lookup "name" = some (.string p.name))
      (type : members.lookup "type" = some (.string p.type.tag))
      (required : members.lookup "required" = some (.boolean p.required))
      (description : members.lookup "description" = p.description.map .string)
      (params : members.lookup "params" = p.params.map fun _ => .array items)
      (nested : List.Forall₂ Written p.nested items) : Written p (.object members)

def Parameter.draft (p : Parameter) : ParameterDraft :=
  { name := some p.name
    type := some p.type.tag
    required := some p.required
    description := p.description.map some
    params := p.params.map some }

theorem Parameter.finish_draft {p : Parameter} (type : p.type.Genuine) :
    p.draft.finish = .ok p := by
  obtain ⟨name, type, required, description, params⟩ := p
  have same := ParamType.Genuine.ofTag_tag type
  cases description <;> cases params <;>
    simp [draft, ParameterDraft.finish, given, same, bind, Except.bind, pure, Except.pure]

theorem parametersOfItems_of_written {params : List Parameter} {items : List Value}
    (reads : ∀ p ∈ params, ∀ item, p.Written item → Parameter.ofJson item = .ok p)
    (written : List.Forall₂ Parameter.Written params items) :
    parametersOfItems items = .ok params := by
  rw [parametersOfItems_eq_mapM, Except.mapM_eq_ok_iff]
  have each := (List.forall₂_and_left _ _).2 ⟨reads, written⟩
  exact each.imp fun p item ⟨reads, written⟩ => reads item written

theorem Parameter.Written.ofJson_eq {p : Parameter} (genuine : p.Genuine) {v : Value}
    (written : p.Written v) : Parameter.ofJson v = .ok p := by
  induction p using Parameter.induction generalizing v with
  | step p ih =>
    cases written with
    | @intro _ members items distinct name tag required description params nested =>
      have inner : parametersOfItems items = .ok p.nested :=
        parametersOfItems_of_written (fun q member _ => ih q member (genuine.nested q member))
          nested
      have read : parameterMembers {} members = .ok p.draft := by
        rw [parameterMembers_eq_ok_iff distinct]
        refine ⟨supplied_of_some name rfl, supplied_of_some tag rfl, supplied_of_some required rfl,
          supplied_map description fun _ _ => rfl, supplied_map params fun nested given => ?_⟩
        rw [nestedOfJson, inner, Parameter.nested, given]
        rfl
      rw [Parameter.ofJson, read]
      exact finish_draft genuine.type

theorem Parameter.toJson_eq (p : Parameter) :
    p.toJson = .object (
      [("name", .string p.name), ("type", .string p.type.tag), ("required", .boolean p.required)] ++
      (p.description.map fun text => ("description", .string text)).toList ++
      (p.params.map fun nested => ("params", .array (nested.map toJson))).toList) := by
  obtain ⟨name, type, required, description, params⟩ := p
  cases description <;> cases params <;> simp [toJson, parametersToJson_eq_map]

theorem Parameter.written_toJson (p : Parameter) : p.Written p.toJson := by
  induction p using Parameter.induction with
  | step p ih =>
    have nested : List.Forall₂ Written p.nested (p.nested.map toJson) :=
      List.forall₂_map_right_iff.2 (List.forall₂_same.2 ih)
    obtain ⟨name, type, required, description, params⟩ := p
    rw [toJson_eq]
    cases description <;> cases params
    all_goals exact .intro (by simp) rfl rfl rfl rfl rfl nested

inductive Example.Written (e : Example) : Value → Prop where
  | intro {members : Members} (distinct : (members.map Prod.fst).Nodup)
      (name : members.lookup "name" = some (.string e.name))
      (data : members.lookup "data" = some e.data)
      (hidden : members.lookup "hidden" = some (.boolean e.hidden)) : Written e (.object members)

theorem Example.Written.ofJson_eq {e : Example} {v : Value} (written : e.Written v) :
    Example.ofJson v = .ok e := by
  cases written with
  | @intro members distinct name data hidden =>
    have read : exampleMembers {} members = .ok ⟨some e.name, some e.data, some e.hidden⟩ := by
      rw [exampleMembers_eq_ok_iff distinct]
      exact ⟨supplied_of_some name rfl, supplied_of_some data rfl, supplied_of_some hidden rfl⟩
    rw [Example.ofJson, read]
    rfl

theorem Example.written_toJson (e : Example) : e.Written e.toJson :=
  .intro (by simp) rfl rfl rfl

/-- The examples are left out if there are none. -/
inductive Spec.Written (spec : Spec) : Value → Prop where
  | intro {members : Members} {items uses : List Value} (distinct : (members.map Prod.fst).Nodup)
      (params : members.lookup "params" = some (.array items))
      (eachParam : List.Forall₂ Parameter.Written spec.params items)
      (examples : members.lookup "examples" =
        if spec.examples.isEmpty then none else some (.array uses))
      (eachExample : List.Forall₂ Example.Written spec.examples uses) :
      Written spec (.object members)

theorem Spec.Written.ofJson_eq {spec : Spec} (genuine : spec.Genuine) {v : Value}
    (written : spec.Written v) : Spec.ofJson v = .ok spec := by
  cases written with
  | @intro members items uses distinct params eachParam examples eachExample =>
    have decoded : parametersOfItems items = .ok spec.params :=
      parametersOfItems_of_written (fun p member _ written => written.ofJson_eq (genuine p member))
        eachParam
    have used : uses.mapM Example.ofJson = .ok spec.examples :=
      Except.mapM_eq_ok_iff.2 (eachExample.imp fun e item written => written.ofJson_eq)
    obtain ⟨_, given⟩ := spec
    cases given with
    | nil =>
      have read : specMembers {} members = .ok ⟨some _, none⟩ :=
        (specMembers_eq_ok_iff distinct).2 ⟨supplied_of_some params decoded,
          supplied_of_none examples⟩
      rw [Spec.ofJson, read]
      rfl
    | cons e rest =>
      have read : specMembers {} members = .ok ⟨some _, some _⟩ :=
        (specMembers_eq_ok_iff distinct).2 ⟨supplied_of_some params decoded,
          supplied_of_some examples used⟩
      rw [Spec.ofJson, read]
      rfl

theorem Spec.written_toJson (spec : Spec) : spec.Written spec.toJson := by
  have eachParam : List.Forall₂ Parameter.Written spec.params (parametersToJson spec.params) := by
    rw [parametersToJson_eq_map]
    exact List.forall₂_map_right_iff.2 (List.forall₂_same.2 fun p _ => p.written_toJson)
  have eachExample : List.Forall₂ Example.Written spec.examples
      (spec.examples.map Example.toJson) :=
    List.forall₂_map_right_iff.2 (List.forall₂_same.2 fun e _ => e.written_toJson)
  obtain ⟨params, examples⟩ := spec
  cases examples with
  | nil => exact .intro (by simp) rfl eachParam rfl eachExample
  | cons e rest => exact .intro (by simp) rfl eachParam rfl eachExample

theorem Spec.ofValue_eq_ok_iff {v : Value} {spec : Spec} :
    Spec.ofValue v = .ok spec ↔ Spec.ofJson v = .ok spec := by
  rw [ofValue]
  cases Spec.ofJson v <;> simp [Except.mapError]

/-- Writing a genuine spec and reading it again gives the same spec, in whichever order the members
stand. Every spec that is read is genuine, and stays so when its parameters are normalized. -/
theorem decoding_inverts_encoding :
    (∀ spec : Spec, spec.Genuine →
      Spec.ofValue spec.toJson = .ok spec ∧ ∀ v, spec.Written v → Spec.ofValue v = .ok spec) ∧
    (∀ v spec, Spec.ofValue v = .ok spec → spec.Genuine ∧ Spec.ofValue spec.toJson = .ok spec) ∧
    ∀ params : List Parameter, (∀ p ∈ params, p.Genuine) → ∀ p ∈ normalize params, p.Genuine := by
  have inverse : ∀ spec : Spec, spec.Genuine → ∀ v, spec.Written v → Spec.ofValue v = .ok spec :=
    fun spec genuine v written => Spec.ofValue_eq_ok_iff.2 (written.ofJson_eq genuine)
  refine ⟨fun spec genuine => ⟨inverse spec genuine _ spec.written_toJson, inverse spec genuine⟩,
    ?_,
    genuine_normalize⟩
  intro v spec decoded
  have genuine := Spec.genuine_of_ofJson (Spec.ofValue_eq_ok_iff.1 decoded)
  exact ⟨genuine, inverse spec genuine _ spec.written_toJson⟩

/-- A type that is not known, an empty and an absent list of nested parameters, and a negative
zero. -/
def datedSpec : Spec :=
  { params := [
      { name := "date", type := .unknown "date", params := some [] },
      { name := "rows", type := .array, required := true, description := some "Rows of the table."
        params := some [{ name := "text", type := .string }] }]
    examples := [{ name := "zero", data := .number (.float (.zero true)), hidden := true }] }

/-- The same spec with the members of each object sorted by key. -/
def sortedDates : Value :=
  .object [
    ("examples", .array [.object [
      ("data", .number (.float (.zero true))), ("hidden", .boolean true),
      ("name", .string "zero")]]),
    ("params", .array [
      .object [("name", .string "date"), ("params", .array []), ("required", .boolean false),
        ("type", .string "date")],
      .object [("description", .string "Rows of the table."), ("name", .string "rows"),
        ("params", .array [.object [
          ("name", .string "text"), ("required", .boolean false), ("type", .string "string")]]),
        ("required", .boolean true), ("type", .string "array")]])]

theorem genuine_datedSpec : datedSpec.Genuine := by
  have nested : ∀ q ∈ [({ name := "text", type := .string } : Parameter)], q.Genuine :=
    List.forall_mem_singleton.2 (.intro nofun (List.forall_mem_nil _))
  refine List.forall_mem_cons.2 ⟨?_, List.forall_mem_singleton.2 ?_⟩
  · exact .intro (ParamType.genuine_ofTag "date") (List.forall_mem_nil _)
  · exact .intro nofun nested

theorem written_sortedDates : datedSpec.Written sortedDates := by
  have text : Parameter.Written { name := "text", type := .string } (.object [
      ("name", .string "text"), ("required", .boolean false), ("type", .string "string")]) :=
    .intro (by decide) rfl rfl rfl rfl rfl .nil
  apply Spec.Written.intro (by decide) rfl _ rfl
  · exact .cons (.intro (by decide) rfl rfl rfl) .nil
  · apply List.Forall₂.cons (.intro (by decide) rfl rfl rfl rfl rfl .nil)
    apply List.Forall₂.cons (.intro (by decide) rfl rfl rfl rfl rfl (.cons text .nil))
    exact .nil

theorem decoding_inverts_encoding_dates :
    datedSpec.Genuine ∧ datedSpec.Written sortedDates ∧ Spec.ofValue sortedDates = .ok datedSpec ∧
      Spec.ofValue datedSpec.toJson = .ok datedSpec ∧
        ∀ p ∈ normalize datedSpec.params, p.Genuine := by
  have read :=
    (decoding_inverts_encoding.1 datedSpec genuine_datedSpec).2 sortedDates written_sortedDates
  have again := (decoding_inverts_encoding.2.1 sortedDates datedSpec read).2
  exact ⟨genuine_datedSpec, written_sortedDates, read, again,
    decoding_inverts_encoding.2.2 datedSpec.params genuine_datedSpec⟩

end ComponentSchema
