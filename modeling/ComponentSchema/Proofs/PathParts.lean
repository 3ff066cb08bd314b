import ComponentSchema.Path

/-! Parts of paths that are joined: those of the first path and then those of the text below it,
which are only names where the text stays inside. -/

set_option autoImplicit false

namespace ComponentSchema

namespace Path

def partsOf : List (List Char) → List PathPart
  | [] => []
  | first :: rest => (firstPart? first rest.isEmpty).toList ++ rest.filterMap part?

def partsBelow (below : String) : List PathPart :=
  (segments below.toList).filterMap part?

theorem parts_eq (path : Path) : path.parts = partsOf (segments path.text.toList) := rfl

theorem segments_slash (front below : List Char) :
    segments (front ++ '/' :: below) = segments front ++ segments below :=
  List.splitOn_append_cons_self front below

theorem segments_nonempty (text : List Char) : segments text ≠ [] :=
  List.splitOn_ne_nil '/' text

theorem segments_of_notMem {text : List Char} (single : '/' ∉ text) : segments text = [text] :=
  List.splitOn_eq_singleton single

theorem filterMap_part?_empty : [[]].filterMap part? = [] := rfl

theorem partsOf_append {front later : List (List Char)} (nonempty : front ≠ [])
    (more : later ≠ []) :
    partsOf (front ++ later) = partsOf (front ++ [[]]) ++ later.filterMap part? := by
  obtain ⟨first, rest, rfl⟩ := List.exists_cons_of_ne_nil nonempty
  have goesOn : (rest ++ later).isEmpty = false := by simp [more]
  have ends : (rest ++ [[]]).isEmpty = false := by simp
  rw [List.cons_append, List.cons_append, partsOf, partsOf, goesOn, ends, List.filterMap_append,
    List.filterMap_append, filterMap_part?_empty, List.append_nil, List.append_assoc]

/-- A slash at the end of a text adds no part, unless there is nothing in front of it. -/
theorem partsOf_segments_append {text : List Char} (nonempty : text ≠ []) :
    partsOf (segments text ++ [[]]) = partsOf (segments text) := by
  obtain ⟨first, rest, split⟩ := List.exists_cons_of_ne_nil (segments_nonempty text)
  rw [split, List.cons_append, partsOf, partsOf, List.filterMap_append, filterMap_part?_empty,
    List.append_nil]
  cases rest with
  | cons next rest => rfl
  | nil =>
    have same : text = first := by
      have joined : ['/'].intercalate (segments text) = text := List.intercalate_splitOn '/'
      rw [split] at joined
      simpa using joined.symm
    simp [firstPart?, ← same, nonempty]

theorem parts_join {path : Path} {below : String} (nonempty : path.text ≠ "")
    (relative : isAbsolute ⟨below⟩ = false) :
    (path.join below).parts = path.parts ++ partsBelow below := by
  have text : path.text.toList ≠ [] := fun empty => nonempty (String.toList_eq_nil_iff.1 empty)
  by_cases ends : path.text.toList.getLast? = some '/'
  · obtain ⟨front, same⟩ := List.getLast?_eq_some_iff.1 ends
    have joined : path.join below = ⟨path.text ++ below⟩ := by simp [join, relative, ends]
    rw [joined, parts_eq, parts_eq, String.toList_append, same, List.append_assoc,
      List.singleton_append, segments_slash, segments_slash,
      partsOf_append (segments_nonempty front) (segments_nonempty _)]
    rfl
  · have joined : path.join below = ⟨path.text ++ "/" ++ below⟩ := by
      simp [join, relative, ends, text]
    have slash : (path.text ++ "/" ++ below).toList = path.text.toList ++ '/' :: below.toList := by
      simp
    rw [joined, parts_eq, parts_eq, slash, segments_slash,
      partsOf_append (segments_nonempty _) (segments_nonempty _), partsOf_segments_append text]
    rfl

theorem part?_of_long {segment : List Char} (long : 2 < segment.length) :
    part? segment = some (.named (String.ofList segment)) := by
  have visible : ¬(segment = [] ∨ segment = ['.']) := by
    rintro (rfl | rfl) <;> simp at long
  have moves : segment ≠ ['.', '.'] := by
    rintro rfl
    simp at long
  rw [part?, if_neg visible, if_neg moves]

theorem join_of_empty {path : Path} {below : String} (empty : path.text = "") :
    path.join below = ⟨below⟩ := by
  simp [join, empty]

theorem text_join_ne {path : Path} {below : String} (nonempty : path.text ≠ "" ∨ below ≠ "") :
    (path.join below).text ≠ "" := by
  simp only [join]
  split
  · rename_i absolute
    rintro rfl
    cases absolute
  · split
    all_goals
      intro empty
      rcases nonempty with front | front <;> simp_all

theorem partsBelow_of_notMem {name : String} (single : '/' ∉ name.toList) :
    partsBelow name = (part? name.toList).toList := by
  rw [partsBelow, segments_of_notMem single]
  cases found : part? name.toList <;> simp [found]

theorem isAbsolute_of_notMem {name : String} (single : '/' ∉ name.toList) :
    isAbsolute ⟨name⟩ = false := by
  rw [isAbsolute, decide_eq_false_iff_not]
  intro leading
  exact single (List.mem_of_mem_head? leading)

/-- A part that a path has below its start is one of its parts. -/
theorem mem_parts_of_mem_partsBelow {text : String} {part : PathPart}
    (member : part ∈ partsBelow text) :
    part ∈ (⟨text⟩ : Path).parts ∧ part ≠ .current := by
  rw [partsBelow, List.mem_filterMap] at member
  obtain ⟨segment, inside, found⟩ := member
  have visible : segment ≠ [] ∧ segment ≠ ['.'] := by
    constructor <;> rintro rfl <;> cases found
  constructor
  · rw [parts_eq]
    obtain ⟨first, rest, split⟩ := List.exists_cons_of_ne_nil (segments_nonempty text.toList)
    rw [split] at inside ⊢
    rcases List.mem_cons.1 inside with rfl | later
    · simp [partsOf, firstPart?, visible, found]
    · exact List.mem_append_right _ (List.mem_filterMap.2 ⟨segment, later, found⟩)
  · rintro rfl
    simp only [part?, visible.1, visible.2, or_self, if_false] at found
    split at found <;> cases found

theorem isAbsolute_of_staysInside {text : String} (inside : staysInside ⟨text⟩ = true) :
    isAbsolute ⟨text⟩ = false := by
  rw [isAbsolute, decide_eq_false_iff_not]
  intro leading
  obtain ⟨rest, split⟩ := List.head?_eq_some_iff.1 leading
  have slash : segments text.toList = [] :: segments rest := by
    rw [split]
    exact segments_slash [] rest
  have root : PathPart.root ∈ (⟨text⟩ : Path).parts := by
    rw [parts_eq, slash]
    simp [partsOf, firstPart?, segments_nonempty]
  have refused := List.all_eq_true.1 inside _ root
  cases refused

theorem named_of_staysInside {text : String} (inside : staysInside ⟨text⟩ = true) {part : PathPart}
    (member : part ∈ partsBelow text) : ∃ name, part = .named name := by
  obtain ⟨member, moves⟩ := mem_parts_of_mem_partsBelow member
  have allowed := List.all_eq_true.1 inside _ member
  cases part with
  | named name => exact ⟨name, rfl⟩
  | current => exact absurd rfl moves
  | _ => cases allowed

end Path

end ComponentSchema
