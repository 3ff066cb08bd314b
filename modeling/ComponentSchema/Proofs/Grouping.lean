import ComponentSchema.Proofs.DottedName

/-! Groups partition a list of parameters by key: each key has one group, which holds all its
parameters in their order. -/

set_option autoImplicit false

namespace ComponentSchema

theorem foldl_addToGroups_cons (params : List Parameter) (g : Group) (gs : List Group) :
    params.foldl (fun groups p => addToGroups p groups) (g :: gs) =
      { g with further := g.further ++ params.filter (groupKey ·.name = g.key) } ::
        (params.filter (groupKey ·.name ≠ g.key)).foldl
          (fun groups p => addToGroups p groups) gs := by
  induction params generalizing g gs with
  | nil => simp
  | cons p rest ih =>
    by_cases same : groupKey p.name = g.key
    · simp [addToGroups, same, ih]
    · simp [addToGroups, same, Ne.symm same, ih]

theorem groups_cons (p : Parameter) (rest : List Parameter) :
    groups (p :: rest) =
      { key := groupKey p.name, first := p,
        further := rest.filter (groupKey ·.name = groupKey p.name) } ::
        groups (rest.filter (groupKey ·.name ≠ groupKey p.name)) := by
  simp [groups, addToGroups, foldl_addToGroups_cons]

/-- Lists of parameters key by key: what passes from the parameters of the other keys to all holds
of every list. -/
theorem keyedInduction {motive : List Parameter → Prop} (nil : motive [])
    (cons : ∀ p rest, motive (rest.filter (groupKey ·.name ≠ groupKey p.name)) →
      motive (p :: rest)) :
    (params : List Parameter) → motive params
  | [] => nil
  | p :: rest =>
      cons p rest (keyedInduction nil cons (rest.filter (groupKey ·.name ≠ groupKey p.name)))
termination_by params => params.length
decreasing_by exact Nat.lt_succ_of_le (List.length_filter_le _ rest)

/-- Lists of parameters as they are normalized: what passes from the lists inside the groups to the
list itself holds of every list. -/
theorem normalizeInduction {motive : List Parameter → Prop}
    (step : ∀ params, (∀ g ∈ groups params, motive g.inner) → motive params)
    (params : List Parameter) :
    motive params :=
  step params fun g _ => normalizeInduction step g.inner
termination_by weights params
decreasing_by exact Group.weights_inner_lt ‹_›

theorem mem_groups_iff {g : Group} (params : List Parameter) :
    g ∈ groups params ↔ params.filter (groupKey ·.name = g.key) = g.members := by
  induction params using keyedInduction with
  | nil => simp [groups, Group.members]
  | cons p rest ih =>
    rw [groups_cons, List.mem_cons, ih, List.filter_filter]
    by_cases same : groupKey p.name = g.key
    · have taken : rest.filter (fun q => decide (groupKey q.name = g.key) &&
          decide (groupKey q.name ≠ groupKey p.name)) = [] := by simp [same]
      rw [taken]
      obtain ⟨key, first, further⟩ := g
      simp only at same
      simp only [same, Group.mk.injEq, true_and, Group.members, List.nil_eq, List.cons_ne_nil,
        or_false, decide_true, List.filter_cons_of_pos, List.cons.injEq]
      exact and_congr eq_comm eq_comm
    · have kept : rest.filter (fun q => decide (groupKey q.name = g.key) &&
          decide (groupKey q.name ≠ groupKey p.name)) = rest.filter (groupKey ·.name = g.key) := by
        apply List.filter_congr
        intro q _
        by_cases key : groupKey q.name = g.key <;> simp [key, Ne.symm same]
      have other : g ≠ ⟨groupKey p.name, p, rest.filter (groupKey ·.name = groupKey p.name)⟩ :=
        fun equal => same (by rw [equal])
      rw [kept]
      simp [other, same]

theorem mem_members_iff {g : Group} {params : List Parameter} (member : g ∈ groups params)
    {p : Parameter} : p ∈ g.members ↔ p ∈ params ∧ groupKey p.name = g.key := by
  rw [← (mem_groups_iff params).1 member, List.mem_filter, decide_eq_true_iff]

theorem first_mem_members (g : Group) : g.first ∈ g.members :=
  List.mem_cons_self

theorem exists_group {p : Parameter} {params : List Parameter} (member : p ∈ params) :
    ∃ g ∈ groups params, g.key = groupKey p.name := by
  have inFilter : p ∈ params.filter (groupKey ·.name = groupKey p.name) := by simp [member]
  obtain ⟨first, further, split⟩ := List.exists_cons_of_ne_nil (List.ne_nil_of_mem inFilter)
  exact ⟨⟨groupKey p.name, first, further⟩, (mem_groups_iff params).2 split, rfl⟩

theorem nodup_keys (params : List Parameter) : ((groups params).map (·.key)).Nodup := by
  induction params using keyedInduction with
  | nil => simp [groups]
  | cons p rest ih =>
    rw [groups_cons, List.map_cons, List.nodup_cons]
    refine ⟨?_, ih⟩
    intro again
    obtain ⟨g, member, same⟩ := List.mem_map.1 again
    have first := (mem_members_iff member).1 (first_mem_members g)
    simp [first.2, same] at first

/-- A list of different keys falls into groups of one. -/
theorem groups_of_nodup {params : List Parameter}
    (distinct : (params.map (groupKey ·.name)).Nodup) :
    groups params = params.map fun p => { key := groupKey p.name, first := p } := by
  induction params with
  | nil => rfl
  | cons p rest ih =>
    rw [List.map_cons, List.nodup_cons, List.mem_map, not_exists] at distinct
    obtain ⟨alone, distinct⟩ := distinct
    have different : ∀ q ∈ rest, groupKey q.name ≠ groupKey p.name :=
      fun q member same => alone q ⟨member, same⟩
    have none : rest.filter (groupKey ·.name = groupKey p.name) = [] := by
      simpa [List.filter_eq_nil_iff] using different
    have others : rest.filter (groupKey ·.name ≠ groupKey p.name) = rest := by
      simpa [List.filter_eq_self] using different
    rw [groups_cons, none, others, ih distinct, List.map_cons]

end ComponentSchema
