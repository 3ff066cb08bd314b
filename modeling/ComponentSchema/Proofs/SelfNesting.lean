import ComponentSchema.Proofs.Partition

/-! Objects that contain a parameter of their own name. A group drops a member named like the key,
but not one whose name goes on after it: from `a.a.b` an object `a` is made with an object `a` in
it. -/

set_option autoImplicit false

namespace ComponentSchema

/-- The lists that are normalized on the way: the list itself, and what is inside each group. -/
inductive Recursed (params : List Parameter) : List Parameter → Prop where
  | top : Recursed params params
  | inside {list : List Parameter} {g : Group} (outer : Recursed params list)
      (group : g ∈ groups list) :
      Recursed params g.inner

/-- No object that is made for a group, at any depth, has a nested parameter of its own name. -/
def SelfFree (params : List Parameter) : Prop :=
  ∀ list, Recursed params list → ∀ g ∈ groups list, g.isPlain = false →
    ∀ q ∈ (g.rebuild (normalize g.inner)).nested, q.name ≠ g.key

/-- The path of the name has a step twice in a row, and goes on after it. -/
def Stutters (name : String) : Prop :=
  ∃ front key more, segments name = front ++ key :: key :: more ∧ more ≠ []

/-- At every depth no name stutters. -/
inductive Steady : List Parameter → Prop where
  | intro {params : List Parameter} (names : ∀ p ∈ params, ¬Stutters p.name)
      (nested : ∀ p ∈ params, Steady p.nested) : Steady params

/-! ### One group -/

theorem Group.inner_made {g : Group} (made : g.isPlain = false) : g.inner = g.kept := by
  simp [inner, made]

theorem exists_made {list : List Parameter} {p : Parameter} {key rest : String} (member : p ∈ list)
    (joined : Joins key rest p.name) : ∃ g ∈ groups list, g.key = key ∧ g.isPlain = false := by
  obtain ⟨g, group, own⟩ := exists_group member
  have among : p ∈ g.members := (mem_members_iff group).2 ⟨member, own.symm⟩
  rw [joined.groupKey_eq] at own
  subst own
  exact ⟨g, group, rfl, isPlain_eq_false among joined.ne_key⟩

theorem exists_name_normalize_iff {params : List Parameter} {key : String} :
    (∃ q ∈ normalize params, q.name = key) ↔ ∃ p ∈ params, groupKey p.name = key := by
  rw [← List.mem_map, names_normalize, keys_groups, mem_groupKeys_iff]

theorem mem_kept_iff {list : List Parameter} {g : Group} (group : g ∈ groups list) {q : Parameter} :
    q ∈ g.kept ↔ ∃ p ∈ list, ∃ rest, Joins g.key rest p.name ∧ ¬(rest = "" ∨ rest = g.key) ∧
      q = { p with name := rest } := by
  have kept : q ∈ g.kept ↔ ∃ p ∈ g.members, renamed g.key p = some q := List.mem_filterMap
  rw [kept]
  constructor
  · rintro ⟨p, among, found⟩
    obtain ⟨member, own⟩ := (mem_members_iff group).1 among
    rcases undotted_or_joins p.name with undotted | ⟨key, rest, joined⟩
    · rw [renamed, ← own, undotted.groupKey_eq, memberName_self] at found
      cases found
    · rw [joined.groupKey_eq] at own
      subst own
      rw [renamed_eq joined] at found
      split at found
      · cases found
      · exact ⟨p, member, rest, joined, ‹_›, (Option.some.inj found).symm⟩
  · rintro ⟨p, member, rest, joined, stays, rfl⟩
    refine ⟨p, (mem_members_iff group).2 ⟨member, joined.groupKey_eq⟩, ?_⟩
    rw [renamed_eq joined, if_neg stays]

/-- An object has a parameter of its own name exactly when a member goes on after the key came
twice. -/
theorem contains_key_iff {list : List Parameter} {g : Group} (group : g ∈ groups list)
    (made : g.isPlain = false) :
    (∃ q ∈ (g.rebuild (normalize g.inner)).nested, q.name = g.key) ↔
      ∃ p ∈ list, ∃ rest more, Joins g.key rest p.name ∧ Joins g.key more rest := by
  rw [Group.rebuild_made made]
  refine exists_name_normalize_iff.trans ?_
  constructor
  · rintro ⟨q, kept, own⟩
    obtain ⟨p, member, rest, joined, stays, rfl⟩ := (mem_kept_iff group).1 kept
    rcases undotted_or_joins rest with undotted | ⟨key, more, further⟩
    · exact absurd (.inr (undotted.groupKey_eq.symm.trans own)) stays
    · rw [further.groupKey_eq] at own
      exact ⟨p, member, rest, more, joined, own ▸ further⟩
  · rintro ⟨p, member, rest, more, joined, further⟩
    have stays : ¬(rest = "" ∨ rest = g.key) :=
      fun dropped => further.not_undotted (joined.undotted_of_dropped dropped)
    exact ⟨_, (mem_kept_iff group).2 ⟨p, member, rest, joined, stays, rfl⟩, further.groupKey_eq⟩

/-! ### Names that stutter -/

theorem Joins.stutters {key rest more name : String} (joined : Joins key rest name)
    (further : Joins key more rest) : Stutters name :=
  ⟨[], key, segments more, by rw [joined.segments_eq, further.segments_eq, List.nil_append],
    segments_ne_nil more⟩

theorem Joins.stutters_of_rest {key rest name : String} (joined : Joins key rest name)
    (stutters : Stutters rest) : Stutters name := by
  obtain ⟨front, twice, more, path, further⟩ := stutters
  exact ⟨key :: front, twice, more, by rw [joined.segments_eq, path, List.cons_append], further⟩

theorem Joins.not_stutters {key rest name : String} (joined : Joins key rest name)
    (undotted : Undotted rest) : ¬Stutters name := by
  rintro ⟨front, twice, more, path, further⟩
  rw [joined.segments_eq, undotted.segments_eq] at path
  have length := congrArg List.length path
  simp only [List.length_append, List.length_cons, List.length_nil] at length
  exact further (List.eq_nil_of_length_eq_zero (by omega))

theorem exists_joins_of_segments {name key : String} {path : List String}
    (split : segments name = key :: path) (nonempty : path ≠ []) :
    ∃ rest, Joins key rest name ∧ segments rest = path := by
  rcases undotted_or_joins name with undotted | ⟨first, rest, joined⟩
  · rw [undotted.segments_eq, List.cons.injEq] at split
    exact absurd split.2.symm nonempty
  · rw [joined.segments_eq, List.cons.injEq] at split
    obtain ⟨rfl, same⟩ := split
    exact ⟨rest, joined, same⟩

/-- Where a name stutters, some list on the way has the repeated step in front. -/
theorem Recursed.exists_twice {params list : List Parameter} (reached : Recursed params list)
    {p : Parameter} (member : p ∈ list) (stutters : Stutters p.name) :
    ∃ inner, Recursed params inner ∧ ∃ q ∈ inner, ∃ key rest more,
      Joins key rest q.name ∧ Joins key more rest := by
  obtain ⟨front, key, more, path, further⟩ := stutters
  induction front generalizing list p with
  | nil =>
    obtain ⟨rest, joined, below⟩ := exists_joins_of_segments path (List.cons_ne_nil _ _)
    obtain ⟨last, again, -⟩ := exists_joins_of_segments below further
    exact ⟨list, reached, p, member, key, rest, last, joined, again⟩
  | cons first front ih =>
    rw [List.cons_append] at path
    obtain ⟨rest, joined, below⟩ := exists_joins_of_segments path (by simp)
    obtain ⟨g, group, rfl, made⟩ := exists_made member joined
    have stays : ¬(rest = "" ∨ rest = g.key) := by
      intro dropped
      have short := congrArg List.length below
      rw [(joined.undotted_of_dropped dropped).segments_eq] at short
      simp only [List.length_append, List.length_cons, List.length_nil] at short
      omega
    have kept := (mem_kept_iff group).2 ⟨p, member, rest, joined, stays, rfl⟩
    exact ih (reached.inside group) (Group.inner_made made ▸ kept) below

theorem Steady.recursed {params list : List Parameter} (steady : Steady params)
    (reached : Recursed params list) : Steady list := by
  induction reached with
  | top => exact steady
  | @inside list g _ group ih =>
    obtain ⟨names, nested⟩ := ih
    have first := ((mem_members_iff group).1 (first_mem_members g)).1
    cases plain : g.isPlain with
    | true =>
      rw [Group.inner, if_pos plain]
      exact nested g.first first
    | false =>
      rw [Group.inner_made plain]
      constructor
      · intro q kept stutters
        obtain ⟨p, member, rest, joined, -, rfl⟩ := (mem_kept_iff group).1 kept
        exact names p member (joined.stutters_of_rest stutters)
      · intro q kept
        obtain ⟨p, member, rest, -, -, rfl⟩ := (mem_kept_iff group).1 kept
        exact nested p member

/-- Objects contain none of their own name exactly if no name stutters in a list that is normalized
on the way. It is enough that none does in the declaration, at any depth. -/
theorem selfFree_iff (params : List Parameter) :
    (SelfFree params ↔ ∀ list, Recursed params list → ∀ p ∈ list, ¬Stutters p.name) ∧
    (Steady params → SelfFree params) := by
  have exact : SelfFree params ↔ ∀ list, Recursed params list → ∀ p ∈ list, ¬Stutters p.name := by
    constructor
    · intro free list reached p member stutters
      obtain ⟨inner, below, q, among, key, rest, more, joined, further⟩ :=
        reached.exists_twice member stutters
      obtain ⟨g, group, rfl, made⟩ := exists_made among joined
      obtain ⟨nested, inObject, same⟩ :=
        (contains_key_iff group made).2 ⟨q, among, rest, more, joined, further⟩
      exact free inner below g group made nested inObject same
    · intro steady list reached g group made q inObject same
      obtain ⟨p, member, rest, more, joined, further⟩ :=
        (contains_key_iff group made).1 ⟨q, inObject, same⟩
      exact steady list reached p member (joined.stutters further)
  refine ⟨exact, fun steady => exact.2 fun list reached => ?_⟩
  obtain ⟨names, -⟩ := steady.recursed reached
  exact names

theorem selfFree_iff_hint : Steady hintParams ∧ SelfFree hintParams := by
  have text : Joins "hint" "text" "hint.text" := ⟨by decide, by decide, by decide⟩
  have html : Joins "hint" "html" "hint.html" := ⟨by decide, by decide, by decide⟩
  have none : Steady [] := .intro (by simp) (by simp)
  have steady : Steady hintParams := by
    constructor
    · simp only [hintParams, List.forall_mem_cons]
      exact ⟨text.not_stutters (.inl (by decide)), html.not_stutters (.inl (by decide)), by simp⟩
    · simp only [hintParams, List.forall_mem_cons]
      exact ⟨none, none, by simp⟩
  exact ⟨steady, (selfFree_iff hintParams).2 steady⟩

def doubledName : Parameter :=
  ⟨"a.a.b", .string, false, none, none⟩

theorem not_selfFree_doubledName :
    normalize [doubledName] =
      [synthesized "a" [synthesized "a" [⟨"b", .string, false, none, none⟩]]] ∧
    ¬∀ params, SelfFree params := by
  have single : normalize [⟨"b", .string, false, none, none⟩] =
      [⟨"b", .string, false, none, none⟩] := by
    rw [normalize_eq_map_groupKeys]
    rfl
  have inner : normalize [⟨"a.b", .string, false, none, none⟩] =
      [synthesized "a" [⟨"b", .string, false, none, none⟩]] := by
    rw [normalize_eq_map_groupKeys, ← single]
    rfl
  have outer : normalize [doubledName] =
      [synthesized "a" [synthesized "a" [⟨"b", .string, false, none, none⟩]]] := by
    rw [normalize_eq_map_groupKeys, ← inner]
    rfl
  refine ⟨outer, fun free => ?_⟩
  have group : ⟨"a", doubledName, []⟩ ∈ groups [doubledName] := List.mem_singleton_self _
  have first : Joins "a" "a.b" doubledName.name := ⟨by decide, by decide, by decide⟩
  have again : Joins "a" "b" "a.b" := ⟨by decide, by decide, by decide⟩
  obtain ⟨q, inObject, same⟩ := (contains_key_iff group rfl).2
    ⟨doubledName, List.mem_singleton_self _, "a.b", "b", first, again⟩
  exact free [doubledName] _ .top _ group rfl q inObject same

end ComponentSchema
