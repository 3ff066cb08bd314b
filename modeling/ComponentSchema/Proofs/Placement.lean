import ComponentSchema.Proofs.NormalForm
import Mathlib.Logic.ExistsUnique

/-! Where normalization puts each parameter: the path of its name leads to it, unless the path
collides with another, and every entry comes about in one of these two ways. -/

set_option autoImplicit false

namespace ComponentSchema

/-- A path whose last name is kept: it is alone, or neither empty nor the name before it again. -/
def Lasting (front : List String) (last : String) : Prop :=
  front = [] ∨ last ≠ "" ∧ front.getLast? ≠ some last

/-- The entry that a parameter becomes under the last name of its path. -/
def Parameter.placed (p : Parameter) (name : String) : Parameter :=
  { p with name, params := p.params.map normalize }

/-- A required object without a description, such as is made for a group. -/
def Parameter.IsGroup (p : Parameter) : Prop :=
  p.type = .object ∧ p.required = true ∧ p.description = none ∧ p.params.isSome

/-- Names that lead through nested parameters to an entry: at each step exactly one entry has the
name, and those on the way are objects such as are made for groups. -/
inductive LeadsTo : List Parameter → List String → Parameter → Prop where
  | last {params : List Parameter} {entry : Parameter}
      (only : params.filter (·.name == entry.name) = [entry]) : LeadsTo params [entry.name] entry
  | through {params : List Parameter} {group entry : Parameter} {path : List String}
      (only : params.filter (·.name == group.name) = [group]) (object : group.IsGroup)
      (further : LeadsTo group.nested path entry) : LeadsTo params (group.name :: path) entry

def sharers (params : List Parameter) (path : List String) : List Parameter :=
  params.filter fun p => path.isPrefixOf (segments p.name)

def renamed (key : String) (p : Parameter) : Option Parameter :=
  (memberName key p.name).map fun name => { p with name }

theorem mem_sharers_iff {params : List Parameter} {path : List String} {p : Parameter} :
    p ∈ sharers params path ↔ p ∈ params ∧ path <+: segments p.name := by
  rw [sharers, List.mem_filter, List.isPrefixOf_iff_prefix]

theorem isPrefixOf_segments_singleton {key name : String} :
    [key].isPrefixOf (segments name) = true ↔ groupKey name = key := by
  obtain ⟨rest, same⟩ := List.head?_eq_some_iff.1 (head_segments name)
  rw [same, List.isPrefixOf_iff_prefix, List.cons_prefix_cons]
  simp [eq_comm]

theorem sharers_key {params : List Parameter} {g : Group} (group : g ∈ groups params) :
    sharers params [g.key] = g.members := by
  rw [← (mem_groups_iff params).1 group]
  apply List.filter_congr
  intro p _
  rw [Bool.eq_iff_iff, isPrefixOf_segments_singleton, decide_eq_true_iff]

theorem joins_of_prefix {key name : String} {path : List String} (nonempty : path ≠ [])
    (shared : key :: path <+: segments name) :
    ∃ rest, Joins key rest name ∧ path <+: segments rest := by
  rcases undotted_or_joins name with undotted | ⟨first, rest, joined⟩
  · rw [undotted.segments_eq, List.cons_prefix_cons, List.prefix_nil] at shared
    exact absurd shared.2 nonempty
  · rw [joined.segments_eq, List.cons_prefix_cons] at shared
    obtain ⟨rfl, below⟩ := shared
    exact ⟨rest, joined, below⟩

theorem renamed_eq {key rest : String} {p : Parameter} (joined : Joins key rest p.name) :
    renamed key p = if rest = "" ∨ rest = key then none else some { p with name := rest } := by
  rw [renamed, joined.memberName_eq]
  split <;> rfl

theorem sharers_kept {params : List Parameter} {g : Group} (group : g ∈ groups params)
    {path : List String} (nonempty : path ≠ []) :
    sharers g.kept path = (sharers params (g.key :: path)).filterMap (renamed g.key) := by
  have kept : g.kept = (params.filter (groupKey ·.name = g.key)).filterMap (renamed g.key) := by
    rw [(mem_groups_iff params).1 group]
    rfl
  rw [sharers, kept, sharers, List.filter_filterMap, List.filterMap_filter, List.filterMap_filter]
  congr 1
  funext p
  rcases undotted_or_joins p.name with undotted | ⟨key, rest, joined⟩
  · have short : ¬g.key :: path <+: segments p.name := by
      rw [undotted.segments_eq, List.cons_prefix_cons, List.prefix_nil]
      exact fun same => nonempty same.2
    by_cases own : groupKey p.name = g.key
    · have dropped : renamed g.key p = none := by
        rw [renamed, ← own, undotted.groupKey_eq, memberName_self, Option.map_none]
      simp [short, dropped]
    · simp [short, own]
  · by_cases own : key = g.key
    · subst own
      by_cases below : path <+: segments rest <;> by_cases dropped : rest = "" ∨ rest = g.key
      all_goals simp [joined.groupKey_eq, joined.segments_eq, renamed_eq joined, below, dropped]
    · simp [joined.groupKey_eq, joined.segments_eq, own, Ne.symm own]

theorem Joins.undotted_of_dropped {key rest name dropped : String} (joined : Joins key rest name)
    (drop : dropped = "" ∨ dropped = key) : Undotted dropped := by
  rcases drop with rfl | rfl
  · exact .inl (by simp)
  · exact .inl joined.key_undotted

/-- A path goes on in a group exactly when it lasts there, and the member is one that the group
keeps. -/
theorem Joins.lasting_iff {key rest name last : String} {front : List String}
    (joined : Joins key rest name) (path : segments rest = front ++ [last]) :
    Lasting (key :: front) last ↔ Lasting front last ∧ ¬(rest = "" ∨ rest = key) := by
  cases front with
  | nil =>
    obtain ⟨rfl, _⟩ := segments_eq_singleton_iff.1 path
    simp [Lasting, eq_comm]
  | cons next front =>
    have dotted : ¬Undotted rest := by
      intro undotted
      simp [undotted.segments_eq] at path
    have other : ¬(rest = "" ∨ rest = key) :=
      fun dropped => dotted (joined.undotted_of_dropped dropped)
    simp [Lasting, other]

/-! ### Following a path -/

theorem leadsTo_single {params : List Parameter} {entry : Parameter}
    (member : entry ∈ normalize params) : LeadsTo (normalize params) [entry.name] entry :=
  .last (filter_name_eq (normal_normalize params).distinct member)

theorem isGroup_synthesized (key : String) (nested : List Parameter) :
    (synthesized key nested).IsGroup :=
  ⟨rfl, rfl, rfl, rfl⟩

theorem leadsTo_of_group {params : List Parameter} {g : Group} {path : List String}
    {entry : Parameter} (group : g ∈ groups params) (made : g.isPlain = false)
    (further : LeadsTo (normalize g.kept) path entry) :
    LeadsTo (normalize params) (g.key :: path) entry := by
  have member : synthesized g.key (normalize g.kept) ∈ normalize params :=
    mem_normalize_iff.2 ⟨g, group, Group.rebuild_made made⟩
  have only := filter_name_eq (normal_normalize params).distinct member
  exact .through only (isGroup_synthesized _ _) further

theorem isPlain_eq_false {g : Group} {p : Parameter} (member : p ∈ g.members)
    (longer : p.name ≠ g.key) : g.isPlain = false := by
  rw [Bool.eq_false_iff, Group.isPlain, ne_eq, Bool.and_eq_true, List.isEmpty_iff, beq_iff_eq]
  rintro ⟨single, same⟩
  rw [Group.members, single, List.mem_singleton] at member
  exact longer (member ▸ same)

theorem leadsTo_of_sharers {params : List Parameter} {p : Parameter} {front : List String}
    {last : String} (alone : sharers params (front ++ [last]) = [p])
    (path : segments p.name = front ++ [last]) (lasting : Lasting front last) :
    LeadsTo (normalize params) (front ++ [last]) (p.placed last) := by
  have member : p ∈ params := (mem_sharers_iff.1 (alone ▸ List.mem_singleton_self p)).1
  obtain ⟨g, group, key⟩ := exists_group member
  -- By induction on the names before the last: within each group, the path stays unshared.
  induction front generalizing params p g with
  | nil =>
    obtain ⟨rfl, undotted⟩ := segments_eq_singleton_iff.1 path
    rw [undotted.groupKey_eq] at key
    have members : g.members = [p] := by rw [← sharers_key group, key, ← alone, List.nil_append]
    obtain ⟨rfl, further⟩ := List.cons.inj members
    have plain : g.isPlain = true := by simp [Group.isPlain, further, key]
    have placed : g.first.placed g.first.name ∈ normalize params :=
      mem_normalize_iff.2 ⟨g, group, Group.rebuild_plain plain⟩
    exact leadsTo_single placed
  | cons first front ih =>
    have shared : first :: (front ++ [last]) <+: segments p.name := path ▸ List.prefix_rfl
    obtain ⟨rest, joined, -⟩ := joins_of_prefix (by simp) shared
    rw [joined.groupKey_eq] at key
    subst key
    rw [joined.segments_eq, List.cons_append, List.cons.injEq] at path
    obtain ⟨lasts, stays⟩ := (joined.lasting_iff path.2).1 lasting
    have kept : sharers g.kept (front ++ [last]) = [{ p with name := rest }] := by
      rw [sharers_kept group (by simp), ← List.cons_append, alone]
      simp [renamed_eq joined, stays]
    have inside : { p with name := rest } ∈ g.kept :=
      (mem_sharers_iff.1 (kept ▸ List.mem_singleton_self _)).1
    obtain ⟨inner, below, same⟩ := exists_group inside
    have made : g.isPlain = false :=
      isPlain_eq_false ((mem_members_iff group).2 ⟨member, joined.groupKey_eq⟩) joined.ne_key
    have leads := ih kept path.2 lasts inside inner below same
    exact leadsTo_of_group group made leads

/-! ### Entries -/

/-- The entries that the recursion over groups puts somewhere, with their paths. -/
inductive GroupedAt : List Parameter → List String → Parameter → Prop where
  | top {params : List Parameter} {entry : Parameter} (member : entry ∈ normalize params) :
      GroupedAt params [entry.name] entry
  | inside {params : List Parameter} {g : Group} {path : List String} {entry : Parameter}
      (group : g ∈ groups params) (made : g.isPlain = false) (below : GroupedAt g.kept path entry) :
      GroupedAt params (g.key :: path) entry

theorem GroupedAt.leadsTo {params : List Parameter} {path : List String} {entry : Parameter}
    (grouped : GroupedAt params path entry) : LeadsTo (normalize params) path entry := by
  induction grouped with
  | top member => exact leadsTo_single member
  | inside group made _ ih => exact leadsTo_of_group group made ih

theorem GroupedAt.path_ne_nil {params : List Parameter} {path : List String} {entry : Parameter}
    (grouped : GroupedAt params path entry) : path ≠ [] := by
  cases grouped <;> exact List.cons_ne_nil _ _

/-- An entry that comes from the only parameter that shares its path. -/
inductive Image (params : List Parameter) : List String → Parameter → Prop where
  | intro {p : Parameter} {front : List String} {last : String}
      (alone : sharers params (front ++ [last]) = [p]) (path : segments p.name = front ++ [last])
      (lasting : Lasting front last) : Image params (front ++ [last]) (p.placed last)

/-- What an entry comes from: the only parameter that shares its path, or several. -/
inductive Origin (params : List Parameter) (path : List String) (entry : Parameter) : Prop where
  | image (image : Image params path entry)
  | group (object : entry.IsGroup) (shared : sharers params path ≠ [])
      (other : ∀ p, sharers params path = [p] → segments p.name ≠ path)

theorem image_of_plain {params : List Parameter} {g : Group} (group : g ∈ groups params)
    (plain : g.isPlain = true) : Image params [g.key] (g.rebuild (normalize g.inner)) := by
  rw [Group.rebuild_plain plain]
  simp only [Group.isPlain, Bool.and_eq_true, List.isEmpty_iff, beq_iff_eq] at plain
  obtain ⟨single, own⟩ := plain
  have path : segments g.first.name = [g.key] :=
    segments_eq_singleton_iff.2 ⟨own, own ▸ Group.undotted_key group⟩
  have alone : sharers params ([] ++ [g.key]) = [g.first] := by
    rw [List.nil_append, sharers_key group, Group.members, single]
  have image : Image params ([] ++ [g.key]) (g.first.placed g.key) := .intro alone path (.inl rfl)
  rwa [← own] at image ⊢

theorem origin_top {params : List Parameter} {g : Group} (group : g ∈ groups params) :
    Origin params [g.key] (g.rebuild (normalize g.inner)) := by
  cases plain : g.isPlain with
  | true => exact .image (image_of_plain group plain)
  | false =>
    have members : sharers params [g.key] = g.members := sharers_key group
    rw [Group.rebuild_made plain]
    refine .group (isGroup_synthesized _ _) (by simp [members, Group.members])
      fun p alone path => ?_
    rw [members, Group.members, List.cons.injEq] at alone
    obtain ⟨rfl, single⟩ := alone
    simp [Group.isPlain, single, (segments_eq_singleton_iff.1 path).1] at plain

theorem sharers_of_kept {params : List Parameter} {g : Group} {kept : Parameter}
    {path : List String} (group : g ∈ groups params) (nonempty : path ≠ [])
    (alone : sharers g.kept path = [kept]) (same : segments kept.name = path) :
    ∃ p rest, sharers params (g.key :: path) = [p] ∧ Joins g.key rest p.name ∧
      ¬(rest = "" ∨ rest = g.key) ∧ kept = { p with name := rest } := by
  rw [sharers_kept group nonempty] at alone
  obtain ⟨p, shares, found⟩ := List.mem_filterMap.1 (alone ▸ List.mem_singleton_self kept)
  obtain ⟨rest, joined, -⟩ := joins_of_prefix nonempty (mem_sharers_iff.1 shares).2
  rw [renamed_eq joined] at found
  split at found
  · cases found
  · rename_i stays
    cases found
    have all : ∀ q ∈ sharers params (g.key :: path), (renamed g.key q).isSome := by
      intro q member
      obtain ⟨name, other, below⟩ := joins_of_prefix nonempty (mem_sharers_iff.1 member).2
      have goes : ¬(name = "" ∨ name = g.key) := by
        intro dropped
        rw [(joined.undotted_of_dropped dropped).segments_eq, ← same] at below
        rcases List.prefix_cons_iff.1 below with none | ⟨further, split, short⟩
        · exact segments_ne_nil rest none
        · rw [List.prefix_nil.1 short] at split
          have equal : rest = name := (segments_eq_singleton_iff.1 split).1
          exact stays (equal ▸ dropped)
      simp [renamed_eq other, goes]
    have length := List.filterMap_length_eq_length.2 all
    rw [alone, List.length_singleton] at length
    obtain ⟨q, only⟩ := List.length_eq_one_iff.1 length.symm
    rw [only, List.mem_singleton] at shares
    exact ⟨p, rest, shares ▸ only, joined, stays, rfl⟩

theorem Image.of_kept {params : List Parameter} {g : Group} {path : List String} {entry : Parameter}
    (group : g ∈ groups params) (image : Image g.kept path entry) :
    Image params (g.key :: path) entry := by
  cases image with
  | intro alone path lasting =>
    obtain ⟨p, rest, single, joined, stays, rfl⟩ := sharers_of_kept group (by simp) alone path
    have longer := joined.segments_eq
    rw [path, ← List.cons_append] at longer
    exact .intro single longer ((joined.lasting_iff path).2 ⟨lasting, stays⟩)

theorem Origin.of_kept {params : List Parameter} {g : Group} {path : List String}
    {entry : Parameter}
    (group : g ∈ groups params) (nonempty : path ≠ []) (origin : Origin g.kept path entry) :
    Origin params (g.key :: path) entry := by
  cases origin with
  | image image => exact .image (image.of_kept group)
  | group object shared other =>
    have kept := sharers_kept group nonempty
    refine .group object (fun none => shared (by rw [kept, none]; rfl)) fun p alone same => ?_
    have shares : g.key :: path <+: segments p.name := same ▸ List.prefix_rfl
    obtain ⟨rest, joined, -⟩ := joins_of_prefix nonempty shares
    rw [alone, List.filterMap_cons, renamed_eq joined] at kept
    rw [joined.segments_eq, List.cons.injEq] at same
    by_cases dropped : rest = "" ∨ rest = g.key
    · rw [if_pos dropped] at kept
      exact shared kept
    · rw [if_neg dropped] at kept
      exact other _ kept same.2

theorem GroupedAt.origin {params : List Parameter} {path : List String} {entry : Parameter}
    (grouped : GroupedAt params path entry) : Origin params path entry := by
  induction grouped with
  | top member =>
    obtain ⟨g, group, rfl⟩ := mem_normalize_iff.1 member
    rw [g.rebuild_name]
    exact origin_top group
  | inside group _ below ih => exact ih.of_kept group below.path_ne_nil

/-- What is inside an entry that is made for a group comes from the recursion as well. -/
theorem GroupedAt.nested {params : List Parameter} {path : List String} {outer entry : Parameter}
    (grouped : GroupedAt params path outer) (made : ¬Image params path outer)
    (member : entry ∈ outer.nested) : GroupedAt params (path ++ [entry.name]) entry := by
  induction grouped with
  | @top params outer top =>
    obtain ⟨g, group, rfl⟩ := mem_normalize_iff.1 top
    rw [g.rebuild_name] at made ⊢
    cases plain : g.isPlain with
    | true => exact absurd (image_of_plain group plain) made
    | false =>
      rw [Group.rebuild_made plain] at member
      exact .inside group plain (.top member)
  | inside group plain _ ih =>
      exact .inside group plain (ih (fun image => made (image.of_kept group)) member)

/-! ### Positions -/

/-- The parameter at a position keeps its path: the path lasts, and no other position shares it. -/
structure Keeps (params : List Parameter) (i : Nat) (p : Parameter) (front : List String)
    (last : String) : Prop where
  here : params[i]? = some p
  path : segments p.name = front ++ [last]
  lasting : Lasting front last
  alone : ∀ j q, params[j]? = some q → front ++ [last] <+: segments q.name → j = i

/-- An entry is the image of the position that keeps its path. -/
def ImageOf (params : List Parameter) (path : List String) (entry : Parameter) (i : Nat) : Prop :=
  ∃ p front last, Keeps params i p front last ∧ path = front ++ [last] ∧ entry = p.placed last

theorem filter_eq_singleton_iff {p : Parameter} {test : Parameter → Bool}
    {params : List Parameter} :
    params.filter test = [p] ↔ ∃ i : Nat, params[i]? = some p ∧ test p = true ∧
      ∀ (j : Nat) (q : Parameter), params[j]? = some q → test q = true → j = i := by
  induction params with
  | nil => simp
  | cons first rest ih =>
    by_cases passes : test first = true
    · rw [List.filter_cons_of_pos passes, List.cons.injEq, List.filter_eq_nil_iff]
      constructor
      · rintro ⟨rfl, fail⟩
        refine ⟨0, rfl, passes, fun j q found pass => ?_⟩
        cases j with
        | zero => rfl
        | succ j => exact absurd pass (fail q (List.mem_of_getElem? found))
      · rintro ⟨i, here, -, alone⟩
        have zero : 0 = i := alone 0 first rfl passes
        subst zero
        refine ⟨Option.some.inj here, fun q member pass => ?_⟩
        obtain ⟨j, found⟩ := List.getElem?_of_mem member
        cases alone (j + 1) q found pass
    · rw [List.filter_cons_of_neg passes, ih]
      constructor
      · rintro ⟨i, here, pass, alone⟩
        refine ⟨i + 1, here, pass, fun j q found pass => ?_⟩
        cases j with
        | zero => exact absurd (Option.some.inj found ▸ pass) passes
        | succ j => rw [alone j q found pass]
      · rintro ⟨i, here, pass, alone⟩
        cases i with
        | zero => exact absurd (Option.some.inj here ▸ pass) passes
        | succ i =>
          refine ⟨i, here, pass, fun j q found pass => ?_⟩
          exact Nat.succ.inj (alone (j + 1) q found pass)

theorem sharers_eq_singleton_iff {p : Parameter} {params : List Parameter} {path : List String} :
    sharers params path = [p] ↔ ∃ i : Nat, params[i]? = some p ∧ path <+: segments p.name ∧
      ∀ (j : Nat) (q : Parameter), params[j]? = some q → path <+: segments q.name → j = i := by
  simp only [sharers, filter_eq_singleton_iff, List.isPrefixOf_iff_prefix]

theorem Keeps.sharers_eq {params : List Parameter} {i : Nat} {p : Parameter} {front : List String}
    {last : String} (keeps : Keeps params i p front last) :
    sharers params (front ++ [last]) = [p] :=
  sharers_eq_singleton_iff.2 ⟨i, keeps.here, keeps.path ▸ List.prefix_rfl, keeps.alone⟩

theorem Image.existsUnique {params : List Parameter} {path : List String} {entry : Parameter}
    (image : Image params path entry) : ∃! i, ImageOf params path entry i := by
  cases image with
  | @intro p front last alone path lasting =>
    obtain ⟨i, here, -, only⟩ := sharers_eq_singleton_iff.1 alone
    refine ⟨i, ⟨p, front, last, ⟨here, path, lasting, only⟩, rfl, rfl⟩, ?_⟩
    rintro j ⟨q, front', last', other, same, -⟩
    have shares : front ++ [last] <+: segments q.name :=
      same.trans other.path.symm ▸ List.prefix_rfl
    exact only j q other.here shares

/-- The entries of the normalized list, with their paths: those at the top, and those nested in an
entry that is not the image of a position. -/
inductive EntryAt (params : List Parameter) : List String → Parameter → Prop where
  | top {entry : Parameter} (member : entry ∈ normalize params) : EntryAt params [entry.name] entry
  | inside {path : List String} {outer entry : Parameter} (reached : EntryAt params path outer)
      (made : ∀ i, ¬ImageOf params path outer i) (member : entry ∈ outer.nested) :
      EntryAt params (path ++ [entry.name]) entry

theorem EntryAt.grouped {params : List Parameter} {path : List String} {entry : Parameter}
    (reached : EntryAt params path entry) : GroupedAt params path entry := by
  induction reached with
  | top member => exact .top member
  | inside _ made member ih =>
    refine ih.nested (fun image => ?_) member
    obtain ⟨i, is, -⟩ := image.existsUnique
    exact made i is

theorem LeadsTo.entryAt {params inner : List Parameter} {path rest : List String}
    {entry : Parameter} (leads : LeadsTo inner rest entry)
    (reached : ∀ outer ∈ inner, EntryAt params (path ++ [outer.name]) outer)
    (made : ∀ front, front ≠ rest → front <+: rest →
      ∀ outer i, ¬ImageOf params (path ++ front) outer i) :
    EntryAt params (path ++ rest) entry := by
  induction leads generalizing path with
  | @last inner entry only =>
    exact reached entry (List.mem_filter.1 (only ▸ List.mem_singleton_self entry)).1
  | @through inner group entry rest only object further ih =>
    have member : group ∈ inner := (List.mem_filter.1 (only ▸ List.mem_singleton_self group)).1
    have nonempty : rest ≠ [] := by cases further <;> exact List.cons_ne_nil _ _
    have here : ∀ i, ¬ImageOf params (path ++ [group.name]) group i :=
      made [group.name] (by simpa using nonempty.symm) ⟨rest, rfl⟩ group
    rw [List.append_cons]
    refine ih (fun outer below => (reached group member).inside here below) ?_
    intro front other starts outer i
    rw [← List.append_cons]
    exact made (group.name :: front) (by simpa using other)
      (List.cons_prefix_cons.2 ⟨rfl, starts⟩) outer i

theorem Keeps.entryAt {params : List Parameter} {i : Nat} {p : Parameter} {front : List String}
    {last : String} (keeps : Keeps params i p front last)
    (leads : LeadsTo (normalize params) (front ++ [last]) (p.placed last)) :
    EntryAt params (front ++ [last]) (p.placed last) := by
  have reached : EntryAt params ([] ++ (front ++ [last])) (p.placed last) := by
    refine leads.entryAt (fun outer member => .top member) ?_
    rintro start other starts outer j ⟨q, front', last', image, same, -⟩
    rw [List.nil_append] at same
    have shares : front' ++ [last'] <+: segments p.name := keeps.path ▸ same ▸ starts
    obtain rfl : i = j := image.alone i p keeps.here shares
    cases keeps.here.symm.trans image.here
    exact other (same.trans (image.path.symm.trans keeps.path))
  exact reached

/-- A path that is on the way to another parameter, or that two positions have. -/
inductive Collision (params : List Parameter) (path : List String) : Prop where
  | onTheWay {i : Nat} {p : Parameter} (here : params[i]? = some p)
      (starts : path <+: segments p.name) (further : path ≠ segments p.name) : Collision params path
  | twice {i j : Nat} {p q : Parameter} (different : i ≠ j) (here : params[i]? = some p)
      (there : params[j]? = some q) (ends : segments p.name = path)
      (meets : segments q.name = path) :
      Collision params path

theorem collision_of_sharers {params : List Parameter} {path : List String}
    (shared : sharers params path ≠ [])
    (other : ∀ p, sharers params path = [p] → segments p.name ≠ path) : Collision params path := by
  obtain ⟨p, member⟩ := List.exists_mem_of_ne_nil _ shared
  obtain ⟨inParams, starts⟩ := mem_sharers_iff.1 member
  obtain ⟨i, here⟩ := List.getElem?_of_mem inParams
  by_cases ends : segments p.name = path
  · have several : ¬∀ (j : Nat) (q : Parameter),
        params[j]? = some q → path <+: segments q.name → j = i :=
      fun alone => other p (sharers_eq_singleton_iff.2 ⟨i, here, starts, alone⟩) ends
    simp only [Classical.not_forall] at several
    obtain ⟨j, q, there, below, different⟩ := several
    by_cases meets : segments q.name = path
    · exact .twice (Ne.symm different) here there ends meets
    · exact .onTheWay there below (Ne.symm meets)
  · exact .onTheWay here starts (Ne.symm ends)

/-- Normalization loses no parameter whose path is its own, and makes up no entry: each comes from
one position, or stands for a group where paths collide. -/
theorem normalize_placement (params : List Parameter) :
    (∀ (i : Nat) (p : Parameter) (front : List String) (last : String),
      Keeps params i p front last →
      LeadsTo (normalize params) (front ++ [last]) (p.placed last) ∧
      EntryAt params (front ++ [last]) (p.placed last)) ∧
    ∀ (path : List String) (entry : Parameter), EntryAt params path entry →
      LeadsTo (normalize params) path entry ∧
      ((∃! i, ImageOf params path entry i) ∨ entry.IsGroup ∧ Collision params path) := by
  refine ⟨fun i p front last keeps => ?_, fun path entry reached => ⟨reached.grouped.leadsTo, ?_⟩⟩
  · have leads := leadsTo_of_sharers keeps.sharers_eq keeps.path keeps.lasting
    exact ⟨leads, keeps.entryAt leads⟩
  · cases reached.grouped.origin with
    | image image => exact .inl image.existsUnique
    | group object shared other => exact .inr ⟨object, collision_of_sharers shared other⟩

def hintParams : List Parameter :=
  [⟨"hint.text", .string, false, none, none⟩, ⟨"hint.html", .string, true, none, none⟩]

theorem normalize_placement_hint :
    Keeps hintParams 0 ⟨"hint.text", .string, false, none, none⟩ ["hint"] "text" ∧
    LeadsTo (normalize hintParams) ["hint", "text"] ⟨"text", .string, false, none, none⟩ ∧
    EntryAt hintParams ["hint", "text"] ⟨"text", .string, false, none, none⟩ := by
  have text : segments "hint.text" = ["hint", "text"] := by
    have joined : Joins "hint" "text" "hint.text" := ⟨by decide, by decide, by decide⟩
    have single : Undotted "text" := .inl (by decide)
    rw [joined.segments_eq, single.segments_eq]
  have html : segments "hint.html" = ["hint", "html"] := by
    have joined : Joins "hint" "html" "hint.html" := ⟨by decide, by decide, by decide⟩
    have single : Undotted "html" := .inl (by decide)
    rw [joined.segments_eq, single.segments_eq]
  have keeps : Keeps hintParams 0 ⟨"hint.text", .string, false, none, none⟩ ["hint"] "text" := by
    refine ⟨rfl, text, .inr (by decide), fun j q found shares => ?_⟩
    match j with
    | 0 => rfl
    | 1 =>
      cases found
      rw [html] at shares
      revert shares
      decide
    | j + 2 => cases found
  exact ⟨keeps, (normalize_placement hintParams).1 0 _ ["hint"] "text" keeps⟩

end ComponentSchema
