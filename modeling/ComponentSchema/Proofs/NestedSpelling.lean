import ComponentSchema.Compilation
import ComponentSchema.Proofs.Partition

/-! The two spellings of an object: parameters with dotted names, and one parameter with these
nested in it. -/

set_option autoImplicit false

namespace ComponentSchema

def Under (key name : String) : Prop :=
  key.toList ++ ['.'] <+: name.toList

instance (key name : String) : Decidable (Under key name) :=
  inferInstanceAs (Decidable (_ <+: _))

def afterKey (key name : String) : String :=
  String.ofList (name.toList.drop (key.length + 1))

def membersUnder (key : String) (params : List Parameter) : List Parameter :=
  (params.filter (Under key ·.name)).map fun p => { p with name := afterKey key p.name }

/-- Put a parameter in the place of the first one under a key, and leave out the others. -/
def replaceUnder (key : String) (object : Parameter) : List Parameter → List Parameter
  | [] => []
  | p :: rest =>
    if Under key p.name then object :: rest.filter (¬Under key ·.name)
    else p :: replaceUnder key object rest

/-- The list with all parameters under a key nested in one object. -/
def nest (key : String) (params : List Parameter) : List Parameter :=
  replaceUnder key (synthesized key (membersUnder key params)) params

/-- Nesting the parameters under the key loses none of them: no other parameter has the name of the
object, and each keeps a name that a group does not drop. -/
structure Nestable (key : String) (params : List Parameter) : Prop where
  key_ne : key ≠ ""
  undotted : '.' ∉ key.toList
  alone : ∀ p ∈ params, p.name ≠ key
  kept : ∀ p ∈ params, Under key p.name → afterKey key p.name ≠ "" ∧ afterKey key p.name ≠ key

theorem replaceUnder_cases (key : String) (object : Parameter) (params : List Parameter) :
    ((∀ p ∈ params, ¬Under key p.name) ∧ replaceUnder key object params = params) ∨
      ∃ before first after, params = before ++ first :: after ∧
        (∀ p ∈ before, ¬Under key p.name) ∧ Under key first.name ∧
        replaceUnder key object params = before ++ object :: after.filter (¬Under key ·.name) := by
  induction params with
  | nil => simp [replaceUnder]
  | cons p rest ih =>
    by_cases under : Under key p.name
    · exact .inr ⟨[], p, rest, rfl, by simp, under, by simp [replaceUnder, under]⟩
    · have skipped : replaceUnder key object (p :: rest) = p :: replaceUnder key object rest :=
        if_neg under
      rcases ih with ⟨none, same⟩ | ⟨before, first, after, split, others, found, replaced⟩
      · exact .inl ⟨by simpa [under] using none, by rw [skipped, same]⟩
      · refine .inr ⟨p :: before, first, after, ?_, ?_, found, ?_⟩
        · rw [split, List.cons_append]
        · simpa [under] using others
        · rw [skipped, replaced, List.cons_append]

/-! ### Keys and parts -/

theorem groupKeys_congr {params others : List Parameter}
    (same : params.map (groupKey ·.name) = others.map (groupKey ·.name)) :
    groupKeys params = groupKeys others := by
  rw [groupKeys, same, groupKeys]

theorem groupKeys_append_filter {front back : List Parameter} {test : Parameter → Bool}
    (known : ∀ p ∈ back, test p = false → groupKey p.name ∈ groupKeys front) :
    groupKeys (front ++ back.filter test) = groupKeys (front ++ back) := by
  have rest : (back.filter test).filter (groupKey ·.name ∉ groupKeys front) =
      back.filter (groupKey ·.name ∉ groupKeys front) := by
    rw [List.filter_filter]
    apply List.filter_congr
    intro p member
    cases passes : test p with
    | true => rw [Bool.and_true]
    | false => simp [known p member passes]
  rw [groupKeys_append, groupKeys_append, rest]

namespace Nestable

variable {key : String} {params : List Parameter}

theorem joins (nestable : Nestable key params) {name : String} (under : Under key name) :
    Joins key (afterKey key name) name := by
  obtain ⟨rest, split⟩ := under
  refine ⟨nestable.key_ne, nestable.undotted, ?_⟩
  have front : key.length + 1 = (key.toList ++ ['.']).length := by simp [String.length_toList]
  rw [afterKey, ← split, front, List.drop_left, String.toList_ofList, List.append_assoc]
  rfl

theorem groupKey_eq_iff (nestable : Nestable key params) {p : Parameter} (member : p ∈ params) :
    groupKey p.name = key ↔ Under key p.name := by
  constructor
  · intro own
    rcases undotted_or_joins p.name with undotted | ⟨first, rest, joined⟩
    · exact absurd (undotted.groupKey_eq.symm.trans own) (nestable.alone p member)
    · rw [joined.groupKey_eq] at own
      subst own
      exact ⟨rest.toList, by simp [joined.name_eq]⟩
  · exact fun under => (nestable.joins under).groupKey_eq

theorem ofKey_eq (nestable : Nestable key params) :
    ofKey key params = params.filter (Under key ·.name) := by
  apply List.filter_congr
  intro p member
  rw [decide_eq_decide]
  exact nestable.groupKey_eq_iff member

theorem filterMap_renamed (nestable : Nestable key params) :
    (ofKey key params).filterMap (renamed key) = membersUnder key params := by
  rw [nestable.ofKey_eq, membersUnder, ← List.filterMap_eq_map]
  apply List.filterMap_congr
  intro p member
  obtain ⟨member, under⟩ := List.mem_filter.1 member
  have under := of_decide_eq_true under
  obtain ⟨nonempty, other⟩ := nestable.kept p member under
  simp [renamed_eq (nestable.joins under), nonempty, other]

theorem normalizeGroup_ofKey (nestable : Nestable key params) :
    normalizeGroup key (ofKey key params) =
      synthesized key (normalize (membersUnder key params)) := by
  rw [← nestable.filterMap_renamed]
  unfold normalizeGroup
  split
  · rename_i single alone
    have member : single ∈ params := List.mem_of_mem_filter (alone ▸ List.mem_singleton_self single)
    rw [if_neg (nestable.alone single member)]
    rfl
  · rfl

/-- Seen by their keys, the object takes the place of the first parameter of its key and of all
others. -/
theorem nest_cases (nestable : Nestable key params) :
    (key ∉ groupKeys params ∧ nest key params = params) ∨
      ∃ before first after, params = before ++ first :: after ∧ key ∉ groupKeys before ∧
        groupKey first.name = key ∧ nest key params =
          before ++ synthesized key (membersUnder key params) ::
            after.filter (groupKey ·.name ≠ key) := by
  have keyless : ∀ part, (∀ p ∈ part, p ∈ params) → (∀ p ∈ part, ¬Under key p.name) →
      key ∉ groupKeys part := by
    intro part among others known
    obtain ⟨p, member, mark⟩ := mem_groupKeys_iff.1 known
    exact others p member ((nestable.groupKey_eq_iff (among p member)).1 mark)
  rcases replaceUnder_cases key (synthesized key (membersUnder key params)) params with
    ⟨others, same⟩ | ⟨before, first, after, split, others, found, replaced⟩
  · exact .inl ⟨keyless params (fun _ member => member) others, same⟩
  · have among : ∀ p ∈ before ++ first :: after, p ∈ params := fun _ member => split ▸ member
    refine .inr ⟨before, first, after, split, ?_, (nestable.joins found).groupKey_eq, ?_⟩
    · exact keyless before (fun p member => among p (by simp [member])) others
    · rw [nest, replaced]
      congr 2
      apply List.filter_congr
      intro p member
      simp only [nestable.groupKey_eq_iff (among p (by simp [member])), ne_eq]

theorem groupKey_synthesized (nestable : Nestable key params) (nested : List Parameter) :
    groupKey (synthesized key nested).name = key :=
  Undotted.groupKey_eq (.inl nestable.undotted)

theorem groupKeys_nest (nestable : Nestable key params) :
    groupKeys (nest key params) = groupKeys params := by
  rcases nestable.nest_cases with ⟨-, same⟩ | ⟨before, first, after, split, -, mark, nested⟩
  · rw [same]
  · have own := nestable.groupKey_synthesized (membersUnder key params)
    generalize synthesized key (membersUnder key params) = object at own nested
    have front : groupKeys (before ++ [object]) = groupKeys (before ++ [first]) :=
      groupKeys_congr (by simp [own, mark])
    rw [nested, split, List.append_cons before object, List.append_cons before first,
      groupKeys_append_filter]
    · rw [groupKeys_append, groupKeys_append _ after, front]
    · intro p _ passes
      simp only [ne_eq, decide_not, Bool.not_eq_false', decide_eq_true_iff] at passes
      exact mem_groupKeys_iff.2 ⟨object, by simp, own.trans passes.symm⟩

theorem ofKey_nest_of_ne (nestable : Nestable key params) {other : String}
    (different : key ≠ other) :
    ofKey other (nest key params) = ofKey other params := by
  rcases nestable.nest_cases with ⟨-, same⟩ | ⟨before, first, after, split, -, mark, nested⟩
  · rw [same]
  · have own := nestable.groupKey_synthesized (membersUnder key params)
    generalize synthesized key (membersUnder key params) = object at own nested
    have rest : ofKey other (after.filter (groupKey ·.name ≠ key)) = ofKey other after := by
      rw [ofKey, List.filter_filter]
      apply List.filter_congr
      intro p _
      by_cases here : groupKey p.name = other <;> simp [here, Ne.symm different]
    rw [nested, split, List.append_cons, List.append_cons before first, ofKey_append, ofKey_append,
      rest, ofKey_append, ofKey_append]
    simp [ofKey, own, mark, different]

theorem ofKey_nest_self (nestable : Nestable key params) (present : key ∈ groupKeys params) :
    ofKey key (nest key params) = [synthesized key (membersUnder key params)] := by
  rcases nestable.nest_cases with ⟨absent, -⟩ | ⟨before, first, after, split, fresh, -, nested⟩
  · exact absurd present absent
  · have own := nestable.groupKey_synthesized (membersUnder key params)
    rw [nested, List.append_cons, ofKey_append, ofKey_append, ofKey_eq_nil_iff.2 fresh]
    simp [ofKey, own]

theorem normalize_nest (nestable : Nestable key params) :
    normalize (nest key params) = normalize params := by
  apply normalize_congr nestable.groupKeys_nest
  intro other present
  by_cases same : key = other
  · subst same
    rw [nestable.normalizeGroup_ofKey, nestable.ofKey_nest_self present]
    exact if_pos rfl
  · rw [nestable.ofKey_nest_of_ne same]

end Nestable

/-- Parameters with dotted names can be nested in one object instead: the lists are the same once
normalized, and so are the validators compiled from them. -/
theorem compile_nest {key : String} {params : List Parameter} (nestable : Nestable key params) :
    normalize (nest key params) = normalize params ∧
    ∀ (c : Compiler) (one other : Spec), one.params = nest key params → other.params = params →
      c.compile one = c.compile other := by
  have same := nestable.normalize_nest
  refine ⟨same, fun c one other nested dotted => ?_⟩
  rw [Compiler.compile, Compiler.compile, nested, dotted, same]

def dottedHint : List Parameter :=
  [⟨"hint.text", .string, true, none, none⟩, ⟨"icon", .string, false, none, none⟩,
    ⟨"hint.link.href", .string, false, some "Where it leads.", none⟩]

def nestedHint : List Parameter :=
  [⟨"hint", .object, true, none, some [⟨"text", .string, true, none, none⟩,
      ⟨"link.href", .string, false, some "Where it leads.", none⟩]⟩,
    ⟨"icon", .string, false, none, none⟩]

theorem compile_nest_hint :
    Nestable "hint" dottedHint ∧ nest "hint" dottedHint = nestedHint ∧
    (Compiler.mk .standard "input").compile { params := nestedHint } =
      (Compiler.mk .standard "input").compile { params := dottedHint } := by
  have nestable : Nestable "hint" dottedHint := ⟨by decide, by decide, by decide, by decide⟩
  have nested : nest "hint" dottedHint = nestedHint := by rfl
  exact ⟨nestable, nested, (compile_nest nestable).2 _ _ _ nested.symm rfl⟩

end ComponentSchema
