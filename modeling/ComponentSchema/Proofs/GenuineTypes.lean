import ComponentSchema.Proofs.DecodedRecords
import ComponentSchema.Proofs.NormalForm

/-! Genuine types, which are unknown only under tags that no known type has. Decoding gives no
others, and normalization adds none. -/

set_option autoImplicit false

namespace ComponentSchema

open Json (Members Value)

namespace ParamType

def knownTags : List String :=
  [string, integer, boolean, object, array, block].map tag

/-- A type that is unknown only under a tag that no known type has. -/
def Genuine (type : ParamType) : Prop :=
  ∀ unknownTag, type = .unknown unknownTag → unknownTag ∉ knownTags

theorem genuine_ofTag (tag : String) : (ofTag tag).Genuine := by
  intro unknownTag same
  unfold ofTag at same
  repeat' split at same
  all_goals cases same
  simp_all [knownTags, ParamType.tag]

theorem Genuine.ofTag_tag {type : ParamType} (genuine : type.Genuine) : ofTag type.tag = type := by
  cases type with
  | unknown unknownTag =>
    have other := genuine unknownTag rfl
    simp only [knownTags, List.map_cons, List.map_nil, tag, List.mem_cons, List.not_mem_nil,
      or_false, not_or] at other
    simp [ofTag, tag, other]
  | _ => decide

end ParamType

inductive Parameter.Genuine : Parameter → Prop where
  | intro {p : Parameter} (type : p.type.Genuine) (nested : ∀ q ∈ p.nested, q.Genuine) : Genuine p

theorem Parameter.Genuine.type {p : Parameter} : p.Genuine → p.type.Genuine
  | .intro type _ => type

theorem Parameter.Genuine.nested {p : Parameter} : p.Genuine → ∀ q ∈ p.nested, q.Genuine
  | .intro _ nested => nested

/-- No type of the spec is unknown under the tag of a known one. -/
def Spec.Genuine (spec : Spec) : Prop :=
  ∀ p ∈ spec.params, p.Genuine

/-! ### What the decoder returns -/

/-- A parameter that some value is decoded to. -/
def Parameter.Decoded (p : Parameter) : Prop :=
  ∃ v, ofJson v = .ok p

theorem decoded_of_parametersOfItems {items : List Value} {params : List Parameter}
    (read : parametersOfItems items = .ok params) : ∀ p ∈ params, p.Decoded := by
  rw [parametersOfItems_eq_mapM, Except.mapM_eq_ok_iff] at read
  induction read with
  | nil => simp
  | @cons p item _ _ first _ ih => exact List.forall_mem_cons.2 ⟨⟨item, first⟩, ih⟩

def NestedDecoded (params : Option (List Parameter)) : Prop :=
  ∀ q ∈ params.getD [], q.Decoded

theorem nestedDecoded_none : NestedDecoded none := by
  simp [NestedDecoded]

theorem nestedDecoded_of_nestedOfJson {v : Value} {params : Option (List Parameter)}
    (read : nestedOfJson v = .ok params) : NestedDecoded params := by
  unfold nestedOfJson at read
  split at read
  · cases read
    exact nestedDecoded_none
  · rename_i items
    cases valid : parametersOfItems items with
    | error fault =>
      rw [valid] at read
      cases read
    | ok nested =>
      rw [valid] at read
      cases read
      exact decoded_of_parametersOfItems valid
  · cases read

theorem nestedDecoded_parameterMembers {members : Members} {draft final : ParameterDraft}
    (decoded : NestedDecoded (draft.params.getD none))
    (read : parameterMembers draft members = .ok final) :
    NestedDecoded (final.params.getD none) := by
  induction members generalizing draft with
  | nil =>
    cases read
    exact decoded
  | cons member rest ih =>
    obtain ⟨key, value⟩ := member
    by_cases own : key = "params"
    · simp only [parameterMembers, own, pure, Except.pure, Except.bind_eq_ok_iff, Except.ok.injEq,
        String.reduceEq, ↓reduceIte, exists_eq_left'] at read
      obtain ⟨_, supplied, read⟩ := read
      obtain ⟨-, params, valid, rfl⟩ := once_eq_ok_iff.1 supplied
      exact ih (nestedDecoded_of_nestedOfJson valid) read
    · simp only [parameterMembers, own, pure, Except.pure, ↓reduceIte] at read
      repeat' split at read
      all_goals simp only [Except.bind_eq_ok_iff, Except.ok.injEq, exists_eq_left'] at read
      case isFalse.isFalse.isFalse.isFalse => exact ih decoded read
      all_goals
        obtain ⟨_, _, read⟩ := read
        refine ih ?_ read
        exact decoded

theorem ParameterDraft.finish_parts {draft : ParameterDraft} {p : Parameter}
    (finished : draft.finish = .ok p) :
    (∃ tag, p.type = .ofTag tag) ∧ p.params = draft.params.getD none := by
  simp only [finish, Except.bind_eq_ok_iff] at finished
  obtain ⟨_, _, tag, _, finished⟩ := finished
  cases finished
  exact ⟨⟨tag, rfl⟩, rfl⟩

theorem parameterOfItems_parts {items : List Value} {p : Parameter}
    (read : parameterOfItems items = .ok p) :
    (∃ tag, p.type = .ofTag tag) ∧ NestedDecoded p.params := by
  rcases items with _ | ⟨name, _ | ⟨type, rest⟩⟩
  · cases read
  · simp [parameterOfItems, Except.bind_eq_ok_iff] at read
  · rw [parameterOfItems] at read
    obtain ⟨_, -, read⟩ := Except.bind_eq_ok_iff.1 read
    obtain ⟨tag, -, read⟩ := Except.bind_eq_ok_iff.1 read
    split at read
    · cases read
      exact ⟨⟨tag, rfl⟩, nestedDecoded_none⟩
    obtain ⟨_, -, read⟩ := Except.bind_eq_ok_iff.1 read
    split at read
    · cases read
      exact ⟨⟨tag, rfl⟩, nestedDecoded_none⟩
    obtain ⟨_, -, read⟩ := Except.bind_eq_ok_iff.1 read
    split at read
    · cases read
      exact ⟨⟨tag, rfl⟩, nestedDecoded_none⟩
    obtain ⟨params, valid, read⟩ := Except.bind_eq_ok_iff.1 read
    split at read
    · cases read
      exact ⟨⟨tag, rfl⟩, nestedDecoded_of_nestedOfJson valid⟩
    · cases read

theorem Parameter.ofJson_parts {v : Value} {p : Parameter} (decoded : ofJson v = .ok p) :
    (∃ tag, p.type = .ofTag tag) ∧ NestedDecoded p.params := by
  unfold ofJson at decoded
  split at decoded
  · obtain ⟨draft, read, finished⟩ := Except.bind_eq_ok_iff.1 decoded
    obtain ⟨type, params⟩ := draft.finish_parts finished
    have start : NestedDecoded (({} : ParameterDraft).params.getD none) := nestedDecoded_none
    rw [params]
    exact ⟨type, nestedDecoded_parameterMembers start read⟩
  · exact parameterOfItems_parts decoded
  · cases decoded

theorem Parameter.Decoded.genuine {p : Parameter} (decoded : p.Decoded) : p.Genuine := by
  induction p using Parameter.induction with
  | step p ih =>
    obtain ⟨v, decoded⟩ := decoded
    obtain ⟨⟨tag, type⟩, nested⟩ := ofJson_parts decoded
    apply Genuine.intro
    · rw [type]
      exact ParamType.genuine_ofTag tag
    · exact fun q member => ih q member (nested q member)

theorem genuine_of_parametersOfJson {v : Value} {params : List Parameter}
    (read : parametersOfJson v = .ok params) : ∀ p ∈ params, p.Genuine := by
  unfold parametersOfJson at read
  split at read
  · exact fun p member => (decoded_of_parametersOfItems read p member).genuine
  · cases read

theorem genuine_specMembers {members : Members} {draft final : SpecDraft}
    (genuine : ∀ p ∈ draft.params.getD [], p.Genuine)
    (read : specMembers draft members = .ok final) :
    ∀ p ∈ final.params.getD [], p.Genuine := by
  induction members generalizing draft with
  | nil =>
    cases read
    exact genuine
  | cons member rest ih =>
    obtain ⟨key, value⟩ := member
    rw [specMembers] at read
    repeat' split at read
    · obtain ⟨_, supplied, read⟩ := Except.bind_eq_ok_iff.1 read
      obtain ⟨-, params, valid, rfl⟩ := once_eq_ok_iff.1 supplied
      refine ih ?_ read
      exact genuine_of_parametersOfJson valid
    · obtain ⟨_, _, read⟩ := Except.bind_eq_ok_iff.1 read
      refine ih ?_ read
      exact genuine
    · exact ih genuine read

theorem Spec.genuine_of_ofJson {v : Value} {spec : Spec} (decoded : Spec.ofJson v = .ok spec) :
    spec.Genuine := by
  unfold Spec.ofJson at decoded
  split at decoded
  · obtain ⟨draft, read, decoded⟩ := Except.bind_eq_ok_iff.1 decoded
    cases decoded
    exact genuine_specMembers (by simp) read
  · cases decoded
    simp [Genuine]
  · obtain ⟨params, read, decoded⟩ := Except.bind_eq_ok_iff.1 decoded
    cases decoded
    exact genuine_of_parametersOfJson read
  · obtain ⟨params, read, decoded⟩ := Except.bind_eq_ok_iff.1 decoded
    obtain ⟨examples, -, decoded⟩ := Except.bind_eq_ok_iff.1 decoded
    dsimp only at decoded
    split at decoded
    · cases decoded
      exact genuine_of_parametersOfJson read
    · cases decoded
  · cases decoded

/-! ### Normalization -/

theorem Group.genuine_rebuild {g : Group} {nested : List Parameter} (first : g.first.Genuine)
    (genuine : ∀ p ∈ nested, p.Genuine) : (g.rebuild nested).Genuine := by
  apply Parameter.Genuine.intro
  · unfold rebuild
    split
    · exact first.type
    · exact nofun
  · intro q member
    cases declared : (g.rebuild nested).params with
    | none => simp [Parameter.nested, declared] at member
    | some inner =>
      rw [Parameter.nested, declared, Group.nested_of_rebuild declared] at member
      exact genuine q member

theorem Group.genuine_inner {g : Group} (genuine : ∀ p ∈ g.members, p.Genuine) :
    ∀ q ∈ g.inner, q.Genuine := by
  unfold inner
  split
  · exact (genuine g.first (first_mem_members g)).nested
  · intro q member
    obtain ⟨p, among, renamed⟩ := List.mem_filterMap.1 member
    obtain ⟨name, -, rfl⟩ := Option.map_eq_some_iff.1 renamed
    exact ⟨(genuine p among).type, (genuine p among).nested⟩

theorem genuine_normalize (params : List Parameter) (genuine : ∀ p ∈ params, p.Genuine) :
    ∀ p ∈ normalize params, p.Genuine := by
  induction params using normalizeInduction with
  | step params ih =>
    intro p member
    obtain ⟨g, grouped, rfl⟩ := mem_normalize_iff.1 member
    have members : ∀ p ∈ g.members, p.Genuine := fun p among =>
      genuine p ((mem_members_iff grouped).1 among).1
    have inner := ih g grouped (Group.genuine_inner members)
    exact Group.genuine_rebuild (members g.first (first_mem_members g)) inner

end ComponentSchema
