import Mathlib.Data.List.Forall2
import ComponentSchema.Spec.Decoding

/-! Records from objects: each field is read from the only member of its own key, wherever that
stands, and the members that no field declares are skipped. -/

set_option autoImplicit false

namespace ComponentSchema

open Json (Members Value)

theorem Except.bind_eq_ok_iff {ε α β : Type} {x : Except ε α} {f : α → Except ε β} {b : β} :
    (x >>= f) = .ok b ↔ ∃ a, x = .ok a ∧ f a = .ok b := by
  cases x <;> simp [bind, Except.bind]

theorem Except.map_eq_ok_iff {ε α β : Type} {x : Except ε α} {f : α → β} {b : β} :
    f <$> x = .ok b ↔ ∃ a, x = .ok a ∧ f a = b := by
  cases x <;> simp [Functor.map, Except.map]

theorem Except.mapM_eq_ok_iff {ε α β : Type} {read : α → Except ε β} {items : List α}
    {values : List β} :
    items.mapM read = .ok values ↔
      List.Forall₂ (fun value item => read item = .ok value) values items := by
  induction items generalizing values with
  | nil => cases values <;> simp [pure, Except.pure]
  | cons item rest ih =>
    rw [List.mapM_cons]
    cases values <;> simp [Except.bind_eq_ok_iff, pure, Except.pure, ih]

/-! ### Fields -/

theorem once_eq_ok_iff {α : Type} {field : String} {before : Option α} {value : Except Mismatch α}
    {after : Option α} :
    once field before value = .ok after ↔ before = none ∧ ∃ a, value = .ok a ∧ after = some a := by
  cases before <;> cases value <;> simp [once, eq_comm]

def valuesOf (key : String) (members : Members) : List Value :=
  (members.filter (·.1 = key)).map Prod.snd

theorem valuesOf_cons_of_ne {key field : String} {value : Value} {rest : Members}
    (other : key ≠ field) :
    valuesOf field ((key, value) :: rest) = valuesOf field rest := by
  simp [valuesOf, other]

theorem valuesOf_cons_self {field : String} {value : Value} {rest : Members} :
    valuesOf field ((field, value) :: rest) = value :: valuesOf field rest := by
  simp [valuesOf]

theorem valuesOf_of_nodup {field : String} {members : Members}
    (distinct : (members.map Prod.fst).Nodup) :
    valuesOf field members = (members.lookup field).toList := by
  induction members with
  | nil => rfl
  | cons member rest ih =>
    obtain ⟨key, value⟩ := member
    obtain ⟨new, distinct⟩ := List.nodup_cons.1 distinct
    by_cases same : key = field
    · subst same
      have absent : rest.lookup key = none := by
        rw [List.lookup_eq_none_iff]
        intro member inside
        exact bne_iff_ne.2 fun same => new (List.mem_map.2 ⟨member, inside, same.symm⟩)
      rw [valuesOf_cons_self, ih distinct, absent]
      simp
    · rw [valuesOf_cons_of_ne same, ih distinct, List.lookup_cons,
        beq_eq_false_iff_ne.2 (Ne.symm same)]

/-- What the members of a key make of a field read before. The first supplies its value, if there is
none yet, a second one is refused, and without any the field stays. -/
def Collected {α : Type} (members : Members) (field : String) (read : Value → Except Mismatch α)
    (before after : Option α) : Prop :=
  match valuesOf field members with
  | [] => after = before
  | [value] => once field before (read value) = .ok after
  | _ => False

/-- What the member of a key makes of a field read before: its value, for the first time. Without
such a member the field stays. -/
def Supplied {α : Type} (members : Members) (field : String) (read : Value → Except Mismatch α)
    (before after : Option α) : Prop :=
  match members.lookup field with
  | some value => once field before (read value) = .ok after
  | none => after = before

section

variable {α : Type} {members : Members} {field : String} {read : Value → Except Mismatch α}
  {before after : Option α}

theorem supplied_of_some {value : Value} {a : α} (found : members.lookup field = some value)
    (valid : read value = .ok a) : Supplied members field read none (some a) := by
  rw [Supplied, found]
  simp [once, valid]

theorem supplied_of_none (absent : members.lookup field = none) :
    Supplied members field read before before := by
  rw [Supplied, absent]

theorem supplied_map {β : Type} {given : Option β} {write : β → Value} {entry : β → α}
    (found : members.lookup field = given.map write)
    (valid : ∀ b, given = some b → read (write b) = .ok (entry b)) :
    Supplied members field read none (given.map entry) := by
  cases given with
  | none => exact supplied_of_none found
  | some b => exact supplied_of_some found (valid b rfl)

theorem collected_nil : Collected [] field read before after ↔ after = before := Iff.rfl

theorem collected_cons_of_ne {key : String} {value : Value} {rest : Members} (other : key ≠ field) :
    Collected ((key, value) :: rest) field read before after ↔
      Collected rest field read before after := by
  rw [Collected, Collected, valuesOf_cons_of_ne other]

theorem collected_cons_self {value : Value} {rest : Members} :
    Collected ((field, value) :: rest) field read before after ↔
      ∃ next, once field before (read value) = .ok next ∧ Collected rest field read next after := by
  simp only [Collected, valuesOf_cons_self]
  cases valuesOf field rest with
  | nil => simp
  | cons second others =>
    cases before <;> cases read value <;> cases others <;> simp [once]

theorem collected_iff_supplied (distinct : (members.map Prod.fst).Nodup) :
    Collected members field read before after ↔ Supplied members field read before after := by
  rw [Collected, Supplied, valuesOf_of_nodup distinct]
  cases members.lookup field <;> rfl

end

/-! ### Records -/

theorem parameterMembers_eq_ok_iff_collected {members : Members} {draft final : ParameterDraft} :
    parameterMembers draft members = .ok final ↔
      Collected members "name" textOfJson draft.name final.name ∧
      Collected members "type" textOfJson draft.type final.type ∧
      Collected members "required" flagOfJson draft.required final.required ∧
      Collected members "description" optionalTextOfJson draft.description final.description ∧
      Collected members "params" nestedOfJson draft.params final.params := by
  induction members generalizing draft with
  | nil =>
    cases draft
    cases final
    simp [parameterMembers, collected_nil, eq_comm]
  | cons member rest ih =>
    obtain ⟨key, value⟩ := member
    by_cases declared : key ∈ ["name", "type", "required", "description", "params"]
    · simp only [List.mem_cons, List.not_mem_nil, or_false] at declared
      rcases declared with rfl | rfl | rfl | rfl | rfl
      all_goals
        simp [parameterMembers, Except.bind_eq_ok_iff, ih, collected_cons_self,
          collected_cons_of_ne]
        grind
    · simp only [List.mem_cons, List.not_mem_nil, or_false, not_or] at declared
      simp [parameterMembers, declared, ih, collected_cons_of_ne]

theorem parameterMembers_eq_ok_iff {members : Members} (distinct : (members.map Prod.fst).Nodup)
    {draft final : ParameterDraft} :
    parameterMembers draft members = .ok final ↔
      Supplied members "name" textOfJson draft.name final.name ∧
      Supplied members "type" textOfJson draft.type final.type ∧
      Supplied members "required" flagOfJson draft.required final.required ∧
      Supplied members "description" optionalTextOfJson draft.description final.description ∧
      Supplied members "params" nestedOfJson draft.params final.params := by
  simp only [parameterMembers_eq_ok_iff_collected, collected_iff_supplied distinct]

theorem exampleMembers_eq_ok_iff_collected {members : Members} {draft final : ExampleDraft} :
    exampleMembers draft members = .ok final ↔
      Collected members "name" textOfJson draft.name final.name ∧
      Collected members "data" .ok draft.data final.data ∧
      Collected members "hidden" flagOfJson draft.hidden final.hidden := by
  induction members generalizing draft with
  | nil =>
    cases draft
    cases final
    simp [exampleMembers, collected_nil, eq_comm]
  | cons member rest ih =>
    obtain ⟨key, value⟩ := member
    by_cases declared : key ∈ ["name", "data", "hidden"]
    · simp only [List.mem_cons, List.not_mem_nil, or_false] at declared
      rcases declared with rfl | rfl | rfl
      all_goals
        simp [exampleMembers, Except.bind_eq_ok_iff, ih, collected_cons_self, collected_cons_of_ne]
        grind
    · simp only [List.mem_cons, List.not_mem_nil, or_false, not_or] at declared
      simp [exampleMembers, declared, ih, collected_cons_of_ne]

theorem exampleMembers_eq_ok_iff {members : Members} (distinct : (members.map Prod.fst).Nodup)
    {draft final : ExampleDraft} :
    exampleMembers draft members = .ok final ↔
      Supplied members "name" textOfJson draft.name final.name ∧
      Supplied members "data" .ok draft.data final.data ∧
      Supplied members "hidden" flagOfJson draft.hidden final.hidden := by
  simp only [exampleMembers_eq_ok_iff_collected, collected_iff_supplied distinct]

theorem specMembers_eq_ok_iff_collected {members : Members} {draft final : SpecDraft} :
    specMembers draft members = .ok final ↔
      Collected members "params" parametersOfJson draft.params final.params ∧
      Collected members "examples" examplesOfJson draft.examples final.examples := by
  induction members generalizing draft with
  | nil =>
    cases draft
    cases final
    simp [specMembers, collected_nil, eq_comm]
  | cons member rest ih =>
    obtain ⟨key, value⟩ := member
    by_cases declared : key ∈ ["params", "examples"]
    · simp only [List.mem_cons, List.not_mem_nil, or_false] at declared
      rcases declared with rfl | rfl
      all_goals
        simp [specMembers, Except.bind_eq_ok_iff, ih, collected_cons_self, collected_cons_of_ne]
        grind
    · simp only [List.mem_cons, List.not_mem_nil, or_false, not_or] at declared
      simp [specMembers, declared, ih, collected_cons_of_ne]

theorem specMembers_eq_ok_iff {members : Members} (distinct : (members.map Prod.fst).Nodup)
    {draft final : SpecDraft} :
    specMembers draft members = .ok final ↔
      Supplied members "params" parametersOfJson draft.params final.params ∧
      Supplied members "examples" examplesOfJson draft.examples final.examples := by
  simp only [specMembers_eq_ok_iff_collected, collected_iff_supplied distinct]

theorem parametersOfItems_eq_mapM (items : List Value) :
    parametersOfItems items = items.mapM Parameter.ofJson := by
  induction items with
  | nil => rfl
  | cons item rest ih => rw [parametersOfItems, List.mapM_cons, ih]

end ComponentSchema
