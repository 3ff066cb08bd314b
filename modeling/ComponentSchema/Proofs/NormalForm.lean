import ComponentSchema.Proofs.Grouping

/-! Normal lists of parameters, which are the results and the fixed points of normalization. -/

set_option autoImplicit false

namespace ComponentSchema

/-- At every depth the names differ from each other, and each is undotted. -/
inductive Normal : List Parameter → Prop where
  | intro {params : List Parameter} (distinct : (params.map (·.name)).Nodup)
      (undotted : ∀ p ∈ params, Undotted p.name)
      (nested : ∀ p ∈ params, ∀ inner, p.params = some inner → Normal inner) : Normal params

theorem Normal.distinct {params : List Parameter} : Normal params → (params.map (·.name)).Nodup
  | .intro distinct _ _ => distinct

theorem Normal.undotted {params : List Parameter} : Normal params → ∀ p ∈ params, Undotted p.name
  | .intro _ undotted _ => undotted

theorem Normal.nested {params : List Parameter} {p : Parameter} (normal : Normal params)
    (member : p ∈ params) : Normal p.nested := by
  obtain ⟨_, _, nested⟩ := normal
  cases declared : p.params with
  | none =>
    rw [Parameter.nested, declared]
    apply Normal.intro
    · exact List.nodup_nil
    · intro p member
      cases member
    · intro p member
      cases member
  | some inner =>
    rw [Parameter.nested, declared]
    exact nested p member inner declared

theorem filter_name_eq {params : List Parameter} (distinct : (params.map (·.name)).Nodup)
    {entry : Parameter} (member : entry ∈ params) :
    params.filter (·.name == entry.name) = [entry] := by
  induction params with
  | nil => cases member
  | cons p rest ih =>
    rw [List.map_cons, List.nodup_cons] at distinct
    obtain ⟨alone, distinct⟩ := distinct
    rcases List.mem_cons.1 member with rfl | further
    · have none : rest.filter (·.name == entry.name) = [] := by
        rw [List.filter_eq_nil_iff]
        intro q inRest same
        exact alone (List.mem_map.2 ⟨q, inRest, beq_iff_eq.1 same⟩)
      simp [none]
    · have different : (p.name == entry.name) = false := by
        rw [beq_eq_false_iff_ne]
        intro same
        exact alone (List.mem_map.2 ⟨entry, further, same.symm⟩)
      rw [List.filter_cons_of_neg (by simp [different]), ih distinct further]

def tableParams : List Parameter :=
  [{ name := "rows", type := .array, required := true,
     params := some [{ name := "text", type := .string, required := true }] },
   { name := "icon", type := .unknown "date" }]

theorem normal_tableParams : Normal tableParams := by
  apply Normal.intro (by decide) (fun p member => .inl (by revert p; decide))
  intro p member inner declared
  rcases List.mem_cons.1 member with rfl | member
  · cases declared
    apply Normal.intro (by decide) (fun q member => .inl (by revert q; decide))
    intro q member inner declared
    cases List.mem_singleton.1 member
    cases declared
  · cases List.mem_singleton.1 member
    cases declared

/-! ### Results of normalization -/

theorem Group.rebuild_name (g : Group) (nested : List Parameter) :
    (g.rebuild nested).name = g.key := by
  unfold rebuild
  split
  · rename_i plain
    simp only [isPlain, Bool.and_eq_true, beq_iff_eq] at plain
    exact plain.2
  · rfl

theorem Group.nested_of_rebuild {g : Group} {nested inner : List Parameter}
    (declared : (g.rebuild nested).params = some inner) : inner = nested := by
  unfold rebuild at declared
  split at declared
  · obtain ⟨_, _, same⟩ := Option.map_eq_some_iff.1 declared
    exact same.symm
  · exact (Option.some.inj declared).symm

theorem mem_normalize_iff {params : List Parameter} {p : Parameter} :
    p ∈ normalize params ↔ ∃ g ∈ groups params, g.rebuild (normalize g.inner) = p := by
  rw [normalize_eq, List.mem_map]

theorem names_normalize (params : List Parameter) :
    (normalize params).map (·.name) = (groups params).map (·.key) := by
  rw [normalize_eq, List.map_map]
  exact List.map_congr_left fun g _ => g.rebuild_name _

theorem Group.undotted_key {params : List Parameter} {g : Group} (member : g ∈ groups params) :
    Undotted g.key := by
  rw [← ((mem_members_iff member).1 (first_mem_members g)).2]
  exact undotted_groupKey _

theorem normal_normalize (params : List Parameter) : Normal (normalize params) := by
  induction params using normalizeInduction with
  | step params ih =>
    apply Normal.intro
    · rw [names_normalize]
      exact nodup_keys params
    · intro p member
      obtain ⟨g, grouped, rfl⟩ := mem_normalize_iff.1 member
      rw [g.rebuild_name]
      exact Group.undotted_key grouped
    · intro p member inner declared
      obtain ⟨g, grouped, rfl⟩ := mem_normalize_iff.1 member
      rw [Group.nested_of_rebuild declared]
      exact ih g grouped

/-! ### Fixed points of normalization -/

/-- A parameter alone under its own key stays, with its nested parameters normalized. -/
theorem Group.rebuild_plain {g : Group} (plain : g.isPlain = true) :
    g.rebuild (normalize g.inner) = { g.first with params := g.first.params.map normalize } := by
  simp only [rebuild, inner, plain, ↓reduceIte, Parameter.nested]
  cases g.first.params <;> rfl

/-- Any other group becomes an object of the members it keeps. -/
theorem Group.rebuild_made {g : Group} (made : g.isPlain = false) :
    g.rebuild (normalize g.inner) = synthesized g.key (normalize g.kept) := by
  simp [rebuild, inner, made]

theorem Normal.normalize_eq {params : List Parameter} (normal : Normal params) :
    normalize params = params := by
  induction normal with
  | @intro params distinct undotted nested ih =>
    have keys : params.map (groupKey ·.name) = params.map (·.name) :=
      List.map_congr_left fun p member => (undotted p member).groupKey_eq
    rw [ComponentSchema.normalize_eq, groups_of_nodup (keys ▸ distinct), List.map_map]
    apply Eq.trans _ (List.map_id params)
    apply List.map_congr_left
    intro p member
    have same : p.params.map normalize = p.params := by
      cases declared : p.params with
      | none => rfl
      | some inner => rw [Option.map_some, ih p member inner declared]
    have plain : Group.isPlain ⟨groupKey p.name, p, []⟩ = true := by
      simp [Group.isPlain, (undotted p member).groupKey_eq]
    rw [Function.comp_apply, Group.rebuild_plain plain, same, id_eq]
    cases p
    rfl

/-- Normalization is a retraction onto the normal lists. -/
theorem normalize_retraction (params : List Parameter) :
    Normal (normalize params) ∧ normalize (normalize params) = normalize params ∧
      (normalize params = params ↔ Normal params) := by
  refine ⟨normal_normalize params, (normal_normalize params).normalize_eq, fun same => ?_, ?_⟩
  · rw [← same]
    exact normal_normalize params
  · exact Normal.normalize_eq

end ComponentSchema
