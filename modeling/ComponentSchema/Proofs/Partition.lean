import Mathlib.Data.List.Dedup
import Mathlib.Data.List.Induction
import ComponentSchema.Proofs.Placement

/-! Normalization key by key: the groups that one pass collects are the parts of a list by key, and
each part becomes one entry. -/

set_option autoImplicit false

namespace ComponentSchema

/-- The different keys of a list, in the order in which they first occur. -/
def groupKeys (params : List Parameter) : List String :=
  (params.map (groupKey ·.name)).eraseDups

def ofKey (key : String) (params : List Parameter) : List Parameter :=
  params.filter (groupKey ·.name = key)

def regroup (key : String) (members : List Parameter) : Parameter :=
  synthesized key (normalize (members.filterMap (renamed key)))

/-- The entry of a group: its only member, if that is named like the key, and otherwise an
object. -/
def normalizeGroup (key : String) (members : List Parameter) : Parameter :=
  match members with
  | [single] => if single.name = key then single.placed key else regroup key members
  | _ => regroup key members

theorem mem_groupKeys_iff {key : String} {params : List Parameter} :
    key ∈ groupKeys params ↔ ∃ p ∈ params, groupKey p.name = key := by
  simp [groupKeys]

@[simp] theorem groupKeys_nil : groupKeys [] = [] := rfl

theorem groupKeys_singleton (p : Parameter) : groupKeys [p] = [groupKey p.name] := rfl

theorem groupKeys_cons (p : Parameter) (rest : List Parameter) :
    groupKeys (p :: rest) =
      groupKey p.name :: groupKeys (rest.filter (groupKey ·.name ≠ groupKey p.name)) := by
  unfold groupKeys
  rw [List.map_cons, List.eraseDups_cons, List.filter_map]
  congr 3
  apply List.filter_congr
  intro q _
  by_cases same : groupKey q.name = groupKey p.name <;> simp [same]

theorem groupKeys_append (params further : List Parameter) :
    groupKeys (params ++ further) =
      groupKeys params ++ groupKeys (further.filter (groupKey ·.name ∉ groupKeys params)) := by
  unfold groupKeys
  rw [List.map_append, List.eraseDups_append, List.removeAll, List.filter_map]
  congr 3
  apply List.filter_congr
  intro q _
  simp only [Function.comp_apply, List.elem_eq_mem, decide_not, List.mem_eraseDups]

theorem ofKey_append (key : String) (params further : List Parameter) :
    ofKey key (params ++ further) = ofKey key params ++ ofKey key further :=
  List.filter_append params further

theorem ofKey_eq_nil_iff {key : String} {params : List Parameter} :
    ofKey key params = [] ↔ key ∉ groupKeys params := by
  simp [ofKey, mem_groupKeys_iff]

/-! ### Entries -/

theorem keys_groups (params : List Parameter) : (groups params).map (·.key) = groupKeys params := by
  induction params using keyedInduction with
  | nil => rfl
  | cons p rest ih => rw [groups_cons, List.map_cons, ih, groupKeys_cons]

theorem Group.rebuild_eq_normalizeGroup (g : Group) :
    g.rebuild (normalize g.inner) = normalizeGroup g.key g.members := by
  cases plain : g.isPlain with
  | true =>
    rw [rebuild_plain plain]
    simp only [isPlain, Bool.and_eq_true, List.isEmpty_iff, beq_iff_eq] at plain
    obtain ⟨single, own⟩ := plain
    rw [members, single, normalizeGroup, if_pos own, Parameter.placed, ← own]
  | false =>
    have object : normalizeGroup g.key g.members = regroup g.key g.members := by
      unfold normalizeGroup
      split
      · rename_i single alone
        have other : single.name ≠ g.key := by
          rintro own
          rw [members, List.cons.injEq] at alone
          simp [isPlain, alone.1, alone.2, own] at plain
        rw [if_neg other]
      · rfl
    rw [rebuild_made plain, object, regroup]
    rfl

theorem normalize_eq_map_groupKeys (params : List Parameter) :
    normalize params = (groupKeys params).map fun key => normalizeGroup key (ofKey key params) := by
  rw [normalize_eq, ← keys_groups, List.map_map]
  apply List.map_congr_left
  intro g member
  rw [g.rebuild_eq_normalizeGroup, ← (mem_groups_iff params).1 member]
  rfl

theorem normalize_congr {params others : List Parameter}
    (order : groupKeys others = groupKeys params) (entries : ∀ key ∈ groupKeys params,
      normalizeGroup key (ofKey key others) = normalizeGroup key (ofKey key params)) :
    normalize others = normalize params := by
  rw [normalize_eq_map_groupKeys, normalize_eq_map_groupKeys, order]
  exact List.map_congr_left entries

theorem normalize_append {params further : List Parameter}
    (disjoint : ∀ key ∈ groupKeys params, key ∉ groupKeys further) :
    normalize (params ++ further) = normalize params ++ normalize further := by
  have others : further.filter (groupKey ·.name ∉ groupKeys params) = further := by
    simp only [List.filter_eq_self, decide_eq_true_iff]
    intro q member shared
    exact disjoint _ shared (mem_groupKeys_iff.2 ⟨q, member, rfl⟩)
  simp only [normalize_eq_map_groupKeys, groupKeys_append, others, List.map_append, ofKey_append]
  congr 1
  · apply List.map_congr_left
    intro key member
    rw [ofKey_eq_nil_iff.2 (disjoint key member), List.append_nil]
  · apply List.map_congr_left
    intro key member
    rw [ofKey_eq_nil_iff.2 fun shared => disjoint key shared member, List.nil_append]

/-! ### One pass -/

/-- The groups found so far, in order, and the place of each key among them. -/
structure Indexed where
  index : Std.HashMap String Nat := ∅
  found : Array (String × List Parameter) := #[]

/-- A parameter joins the group that the index gives for its key, or starts a new one. A place past
the end would be no group. -/
def Indexed.add (s : Indexed) (p : Parameter) : Option Indexed :=
  match s.index[groupKey p.name]? with
  | some i =>
    if i < s.found.size then
      some { s with found := s.found.modify i fun (key, members) => (key, members ++ [p]) }
    else none
  | none =>
    some
      { index := s.index.insert (groupKey p.name) s.found.size
        found := s.found.push (groupKey p.name, [p]) }

def indexed (params : List Parameter) : Option Indexed :=
  params.foldlM Indexed.add {}

structure Indexed.Tracks (s : Indexed) (seen : List Parameter) : Prop where
  found : s.found.toList = (groupKeys seen).map fun key => (key, ofKey key seen)
  index : ∀ (key : String) (i : Nat), s.index[key]? = some i ↔ (groupKeys seen)[i]? = some key

theorem getElem?_concat_eq_some_iff {keys : List String} {key last : String} {i : Nat} :
    (keys ++ [last])[i]? = some key ↔ keys[i]? = some key ∨ i = keys.length ∧ last = key := by
  rcases Nat.lt_trichotomy i keys.length with before | rfl | after
  · rw [List.getElem?_append_left before]
    simp [Nat.ne_of_lt before]
  · simp
  · have past : (keys ++ [last])[i]? = none := by simp; omega
    simp [past, Nat.le_of_lt after, Nat.ne_of_gt after]

namespace Indexed.Tracks

variable {s : Indexed} {seen : List Parameter}

theorem index_eq_none_iff (tracks : s.Tracks seen) {key : String} :
    s.index[key]? = none ↔ key ∉ groupKeys seen := by
  rw [Option.eq_none_iff_forall_ne_some, List.mem_iff_getElem?, not_exists]
  exact forall_congr' fun i => not_congr (tracks.index key i)

theorem size_found (tracks : s.Tracks seen) : s.found.size = (groupKeys seen).length := by
  rw [← Array.length_toList, tracks.found, List.length_map]

theorem exists_add (tracks : s.Tracks seen) (p : Parameter) :
    ∃ s', s.add p = some s' ∧ s'.Tracks (seen ++ [p]) := by
  unfold Indexed.add
  cases place : s.index[groupKey p.name]? with
  | some i =>
    have here := (tracks.index _ i).1 place
    have inside : i < s.found.size := tracks.size_found ▸ (List.getElem?_eq_some_iff.1 here).1
    have known : groupKeys (seen ++ [p]) = groupKeys seen := by
      simp [groupKeys_append, List.mem_of_getElem? here]
    refine ⟨_, if_pos inside, ?_, fun key j => known ▸ tracks.index key j⟩
    apply List.ext_getElem?
    intro j
    simp only [Array.toList_modify, tracks.found, List.getElem?_modify, known, List.getElem?_map]
    cases there : (groupKeys seen)[j]? with
    | none => rfl
    | some key =>
      have same : i = j ↔ groupKey p.name = key := by
        constructor
        · rintro rfl
          exact Option.some.inj (here.symm.trans there)
        · rintro rfl
          exact Option.some.inj (place.symm.trans ((tracks.index _ j).2 there))
      by_cases own : groupKey p.name = key <;> simp [same, own, ofKey]
  | none =>
    have new := tracks.index_eq_none_iff.1 place
    have keys : groupKeys (seen ++ [p]) = groupKeys seen ++ [groupKey p.name] := by
      simp [groupKeys_append, new, groupKeys_singleton]
    refine ⟨_, rfl, ?_, ?_⟩
    · simp only [Array.toList_push, tracks.found, keys, List.map_append, List.map_cons,
        List.map_nil, ofKey_append, ofKey_eq_nil_iff.2 new]
      congr 1
      · apply List.map_congr_left
        intro key member
        have other : groupKey p.name ≠ key := fun same => new (same ▸ member)
        simp [ofKey, other]
      · simp [ofKey]
    · intro key j
      rw [Std.HashMap.getElem?_insert, keys, tracks.size_found, getElem?_concat_eq_some_iff]
      by_cases own : groupKey p.name = key
      · have absent : (groupKeys seen)[j]? ≠ some key := fun there =>
          new (own ▸ List.mem_of_getElem? there)
        simp [own, absent, @eq_comm _ j]
      · simp [own, tracks.index]

end Indexed.Tracks

theorem exists_tracks (params : List Parameter) :
    ∃ s, indexed params = some s ∧ s.Tracks params := by
  induction params using List.reverseRecOn with
  | nil => exact ⟨{}, rfl, rfl, by simp⟩
  | append_singleton seen p ih =>
    obtain ⟨s, reached, tracks⟩ := ih
    obtain ⟨s', added, tracks'⟩ := tracks.exists_add p
    refine ⟨s', ?_, tracks'⟩
    rw [indexed, List.foldlM_append, ← indexed, reached]
    simp [added]

/-- The loop with the index finds the parts of a list by key, and normalization makes an entry of
each, in the order in which the keys first occur. So only this order counts and the order within
each part, and lists without a common key are normalized apart. -/
theorem normalize_by_key (params : List Parameter) :
    (∃ s, indexed params = some s ∧
      s.found.toList = (groupKeys params).map (fun key => (key, ofKey key params)) ∧
      normalize params = s.found.toList.map fun (key, members) => normalizeGroup key members) ∧
    normalize params = (groupKeys params).map (fun key => normalizeGroup key (ofKey key params)) ∧
    (∀ others, groupKeys others = groupKeys params →
      (∀ key, ofKey key others = ofKey key params) → normalize others = normalize params) ∧
    ∀ further, (∀ p ∈ params, ∀ q ∈ further, groupKey p.name ≠ groupKey q.name) →
      normalize (params ++ further) = normalize params ++ normalize further := by
  have entries := normalize_eq_map_groupKeys params
  refine ⟨?_, entries, ?_, ?_⟩
  · obtain ⟨s, reached, tracks⟩ := exists_tracks params
    refine ⟨s, reached, tracks.found, ?_⟩
    rw [tracks.found, List.map_map, entries]
    rfl
  · intro others order parts
    exact normalize_congr order fun key _ => by rw [parts key]
  · intro further disjoint
    apply normalize_append
    intro key here there
    obtain ⟨p, inParams, rfl⟩ := mem_groupKeys_iff.1 here
    obtain ⟨q, inFurther, same⟩ := mem_groupKeys_iff.1 there
    exact disjoint p inParams q inFurther same.symm

def labelledIcon : List Parameter :=
  [⟨"label.text", .string, false, none, none⟩, ⟨"icon", .string, false, none, none⟩,
    ⟨"label.html", .block, false, none, none⟩]

def iconAfterLabel : List Parameter :=
  [⟨"label.text", .string, false, none, none⟩, ⟨"label.html", .block, false, none, none⟩,
    ⟨"icon", .string, false, none, none⟩]

theorem normalize_by_key_labelledIcon :
    groupKeys labelledIcon = ["label", "icon"] ∧
    normalize iconAfterLabel = normalize labelledIcon ∧
    normalize (labelledIcon ++ hintParams) =
      normalize labelledIcon ++ normalize hintParams := by
  obtain ⟨-, -, reorder, append⟩ := normalize_by_key labelledIcon
  refine ⟨by decide, reorder iconAfterLabel (by decide) ?_, append _ ?_⟩
  · have text : groupKey "label.text" = "label" := by decide
    have html : groupKey "label.html" = "label" := by decide
    have icon : groupKey "icon" = "icon" := by decide
    intro key
    by_cases label : "label" = key
    · simp [ofKey, labelledIcon, iconAfterLabel, text, html, icon, ← label]
    · by_cases own : "icon" = key
      · subst own
        simp [ofKey, labelledIcon, iconAfterLabel, text, html, icon]
      · simp [ofKey, labelledIcon, iconAfterLabel, text, html, icon, label, own]
  · have label : ∀ p ∈ labelledIcon, groupKey p.name ≠ "hint" := by decide
    have hint : ∀ q ∈ hintParams, groupKey q.name = "hint" := by decide
    intro p inLabel q inHint same
    exact label p inLabel (same.trans (hint q inHint))

end ComponentSchema
