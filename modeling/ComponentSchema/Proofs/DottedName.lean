import ComponentSchema.Normalization

/-! Dotted names as paths: every name is either a key of its own, or a key, a dot and a further
name. -/

set_option autoImplicit false

namespace ComponentSchema

/-- A name that is a key of its own: it has no dot, or starts with one. -/
def Undotted (name : String) : Prop :=
  '.' ∉ name.toList ∨ name.toList.head? = some '.'

/-- A name made of a key, which is not empty and has no dot, the dot and the rest. -/
structure Joins (key rest name : String) : Prop where
  key_ne : key ≠ ""
  key_undotted : '.' ∉ key.toList
  name_eq : name.toList = key.toList ++ '.' :: rest.toList

/-! ### The first dot -/

theorem splitFirstDot_eq_some {text before after : List Char}
    (found : splitFirstDot text = some (before, after)) :
    text = before ++ '.' :: after ∧ '.' ∉ before := by
  induction text generalizing before with
  | nil => cases found
  | cons c rest ih =>
    by_cases dot : c = '.'
    · simp only [splitFirstDot, dot, ↓reduceIte, Option.some.injEq, Prod.mk.injEq] at found
      obtain ⟨rfl, rfl⟩ := found
      simp [dot]
    · simp only [splitFirstDot, dot, ↓reduceIte, Option.map_eq_some_iff, Prod.exists,
        Prod.mk.injEq] at found
      obtain ⟨inner, _, found, rfl, rfl⟩ := found
      obtain ⟨rfl, free⟩ := ih found
      exact ⟨rfl, by simpa [Ne.symm dot] using free⟩

theorem splitFirstDot_eq_none_iff {text : List Char} : splitFirstDot text = none ↔ '.' ∉ text := by
  induction text with
  | nil => simp [splitFirstDot]
  | cons c rest ih =>
    by_cases dot : c = '.'
    · simp [splitFirstDot, dot]
    · simp [splitFirstDot, dot, ih, Ne.symm dot]

theorem splitFirstDot_append {before : List Char} (free : '.' ∉ before) (after : List Char) :
    splitFirstDot (before ++ '.' :: after) = some (before, after) := by
  induction before with
  | nil => simp [splitFirstDot]
  | cons c rest ih =>
    simp only [List.mem_cons, not_or] at free
    simp [splitFirstDot, Ne.symm free.1, ih free.2]

/-! ### Keys -/

theorem Joins.toList_key_ne {key rest name : String} (joined : Joins key rest name) :
    key.toList ≠ [] :=
  fun empty => joined.key_ne (String.toList_eq_nil_iff.1 empty)

theorem Joins.groupKey_eq {key rest name : String} (joined : Joins key rest name) :
    groupKey name = key := by
  have found := splitFirstDot_append joined.key_undotted rest.toList
  rw [← joined.name_eq] at found
  obtain ⟨c, front, same⟩ := List.exists_cons_of_ne_nil joined.toList_key_ne
  rw [same] at found
  rw [groupKey, found]
  simp only
  rw [← same, String.ofList_toList]

theorem Undotted.groupKey_eq {name : String} (undotted : Undotted name) : groupKey name = name := by
  unfold groupKey
  rcases undotted with free | leading
  · rw [splitFirstDot_eq_none_iff.2 free]
  · cases text : name.toList with
    | nil => simp [text] at leading
    | cons c rest =>
      rw [text, List.head?_cons, Option.some.injEq] at leading
      simp [splitFirstDot, leading]

theorem undotted_or_joins (name : String) :
    Undotted name ∨ ∃ key rest, Joins key rest name := by
  cases found : splitFirstDot name.toList with
  | none => exact .inl (.inl (splitFirstDot_eq_none_iff.1 found))
  | some parts =>
    obtain ⟨before, after⟩ := parts
    obtain ⟨split, free⟩ := splitFirstDot_eq_some found
    cases before with
    | nil => exact .inl (.inr (by simp [split]))
    | cons c front =>
      refine .inr ⟨String.ofList (c :: front), String.ofList after, ?_, ?_, ?_⟩
      · intro empty
        simpa using congrArg String.toList empty
      · simpa using free
      · simpa using split

theorem Joins.not_undotted {key rest name : String} (joined : Joins key rest name) :
    ¬Undotted name := by
  rintro (free | leading)
  · rw [joined.name_eq] at free
    simp at free
  · obtain ⟨c, front, same⟩ := List.exists_cons_of_ne_nil joined.toList_key_ne
    have undotted := joined.key_undotted
    rw [joined.name_eq, same, List.cons_append, List.head?_cons, Option.some.injEq] at leading
    simp [same, leading] at undotted

theorem Joins.ne_key {key rest name : String} (joined : Joins key rest name) : name ≠ key := by
  rintro rfl
  exact joined.not_undotted (.inl joined.key_undotted)

theorem undotted_groupKey (name : String) : Undotted (groupKey name) := by
  rcases undotted_or_joins name with undotted | ⟨key, rest, joined⟩
  · rwa [undotted.groupKey_eq]
  · rw [joined.groupKey_eq]
    exact .inl joined.key_undotted

/-! ### Members of a group -/

theorem afterFront_append (front rest : List Char) :
    afterFront front (front ++ rest) = some rest := by
  induction front with
  | nil => rfl
  | cons c front ih => simpa [afterFront] using ih

theorem Joins.memberName_eq {key rest name : String} (joined : Joins key rest name) :
    memberName key name = if rest = "" ∨ rest = key then none else some rest := by
  have text : name.toList = (key.toList ++ ['.']) ++ rest.toList := by simp [joined.name_eq]
  rw [memberName, text, afterFront_append]
  simp only [String.toList_eq_nil_iff, String.ofList_toList]

theorem memberName_self (name : String) : memberName name name = none := by
  cases found : memberName name name with
  | none => rfl
  | some inner =>
    have longer := congrArg List.length (memberName_eq_some found)
    simp at longer

/-! ### Paths -/

/-- The path that a name stands for: an undotted name alone, and otherwise the key in front of the
path of the rest. -/
def segments (name : String) : List String :=
  match _found : splitFirstDot name.toList with
  | some (c :: before, after) => String.ofList (c :: before) :: segments (String.ofList after)
  | _ => [name]
termination_by name.length
decreasing_by
  have longer := congrArg List.length (splitFirstDot_eq_some ‹_›).1
  simp only [String.length_toList, List.length_append, List.length_cons] at longer
  simp only [String.length_ofList]
  omega

theorem Undotted.segments_eq {name : String} (undotted : Undotted name) :
    segments name = [name] := by
  rw [segments]
  split
  · rename_i c before after found
    obtain ⟨split, free⟩ := splitFirstDot_eq_some found
    rcases undotted with clear | leading
    · simp [split] at clear
    · simp only [split, List.cons_append, List.head?_cons, Option.some.injEq] at leading
      simp [leading] at free
  · rfl

theorem Joins.segments_eq {key rest name : String} (joined : Joins key rest name) :
    segments name = key :: segments rest := by
  have split := splitFirstDot_append joined.key_undotted rest.toList
  rw [← joined.name_eq] at split
  obtain ⟨c, front, same⟩ := List.exists_cons_of_ne_nil joined.toList_key_ne
  rw [segments]
  split
  · rename_i c before after found
    rw [split, Option.some.injEq, Prod.mk.injEq] at found
    rw [← found.1, ← found.2, String.ofList_toList, String.ofList_toList]
  · rename_i other
    exact absurd (same ▸ split) (other c front rest.toList)

theorem segments_ne_nil (name : String) : segments name ≠ [] := by
  rcases undotted_or_joins name with undotted | ⟨key, rest, joined⟩
  · simp [undotted.segments_eq]
  · simp [joined.segments_eq]

theorem head_segments (name : String) : (segments name).head? = some (groupKey name) := by
  rcases undotted_or_joins name with undotted | ⟨key, rest, joined⟩
  · rw [undotted.segments_eq, undotted.groupKey_eq, List.head?_cons]
  · rw [joined.segments_eq, joined.groupKey_eq, List.head?_cons]

theorem segments_eq_singleton_iff {name key : String} :
    segments name = [key] ↔ name = key ∧ Undotted name := by
  rcases undotted_or_joins name with undotted | ⟨first, rest, joined⟩
  · simp [undotted.segments_eq, undotted]
  · simp [joined.segments_eq, joined.not_undotted, segments_ne_nil]

end ComponentSchema
