import ComponentSchema.Layout
import ComponentSchema.Proofs.PathParts

/-! Paths of specs: they lead from the root of a layout downwards only, and no two specs share
one. -/

set_option autoImplicit false

namespace ComponentSchema

/-! ### Identifiers as parts -/

theorem FrontendVersion.nonempty (version : FrontendVersion) : version.text ≠ "" := by
  intro empty
  have valid := version.valid
  rw [empty] at valid
  cases valid

theorem FrontendVersion.toList_ne_nil (version : FrontendVersion) : version.text.toList ≠ [] :=
  mt String.toList_eq_nil_iff.1 version.nonempty

theorem FrontendVersion.toList_eq_dot_iff (version : FrontendVersion) :
    version.text.toList = ['.'] ↔ version.text = "." := by
  rw [← String.toList_inj]
  rfl

theorem FrontendVersion.single (version : FrontendVersion) : '/' ∉ version.text.toList := by
  intro slash
  have valid := version.valid
  have separated : version.text.toList.any (fun c => c = '/' || c = '\\') = true :=
    List.any_eq_true.2 ⟨'/', slash, rfl⟩
  rw [fault?, separated] at valid
  split at valid <;> cases valid

theorem FrontendVersion.ne_parent (version : FrontendVersion) :
    version.text.toList ≠ ['.', '.'] := by
  intro parent
  have valid := version.valid
  rw [parent] at valid
  cases valid

theorem FrontendVersion.part?_eq (version : FrontendVersion) :
    Path.part? version.text.toList =
      if version.text = "." then none else some (.named version.text) := by
  simp [Path.part?, version.toList_ne_nil, version.ne_parent, version.toList_eq_dot_iff]

theorem ComponentName.notMem (name : ComponentName) {c : Char} (symbol : isWordChar c = false)
    (other : c ≠ '-') : c ∉ name.text.toList := by
  intro member
  have valid := name.valid
  have unfit : (name.text.toList.all fun c => isWordChar c || c = '-') = false :=
    List.all_eq_false.2 ⟨c, member, by simp [symbol, other]⟩
  rw [fault?, unfit] at valid
  split at valid <;> cases valid

theorem ComponentName.nonempty (name : ComponentName) : name.text ≠ "" := by
  intro empty
  have valid := name.valid
  rw [empty] at valid
  cases valid

theorem ComponentName.part?_eq (name : ComponentName) :
    Path.part? name.text.toList = some (.named name.text) := by
  have dotless : '.' ∉ name.text.toList := name.notMem (by decide) (by decide)
  have nonempty : name.text.toList ≠ [] := mt String.toList_eq_nil_iff.1 name.nonempty
  have current : name.text.toList ≠ ['.'] := fun same => dotless (same ▸ List.mem_singleton_self _)
  have parent : name.text.toList ≠ ['.', '.'] := fun same => dotless (same ▸ List.mem_cons_self)
  simp [Path.part?, nonempty, current, parent]

theorem ComponentName.part?_file_eq (name : ComponentName) :
    Path.part? (name.text ++ ".yaml").toList = some (.named (name.text ++ ".yaml")) := by
  have long : 2 < (name.text ++ ".yaml").toList.length := by
    rw [String.toList_append, List.length_append]
    exact Nat.lt_add_left _ (by decide)
  rw [Path.part?_of_long long, String.ofList_toList]

theorem ComponentName.single (name : ComponentName) : '/' ∉ name.text.toList :=
  name.notMem (by decide) (by decide)

theorem ComponentName.single_file (name : ComponentName) : '/' ∉ (name.text ++ ".yaml").toList := by
  rw [String.toList_append, List.mem_append, not_or]
  exact ⟨name.single, by decide⟩

namespace Layout

/-- The part of a version below a root. A dot is a part only where a path starts. -/
def versionParts (root : Path) (version : FrontendVersion) : List PathPart :=
  if version.text = "." then if root.text = "" then [.current] else []
  else [.named version.text]

theorem parts_join_version (root : Path) (version : FrontendVersion) :
    (root.join version.text).parts = root.parts ++ versionParts root version := by
  have later := Path.partsBelow_of_notMem version.single
  by_cases empty : root.text = ""
  · have none : root.parts = [] := by rw [Path.parts_eq, empty]; rfl
    rw [Path.join_of_empty empty, Path.parts_eq, Path.segments_of_notMem version.single, none,
      Path.partsOf, Path.firstPart?, version.part?_eq, versionParts, if_neg version.toList_ne_nil,
      if_pos empty]
    by_cases dot : version.text = "." <;> simp [version.toList_eq_dot_iff, dot]
  · rw [Path.parts_join empty (Path.isAbsolute_of_notMem version.single), later, version.part?_eq,
      versionParts, if_neg empty]
    split <;> rfl

theorem versionParts_injective {root : Path} {version other : FrontendVersion}
    (same : versionParts root version = versionParts root other) : version.text = other.text := by
  unfold versionParts at same
  by_cases here : version.text = "."
  · by_cases there : other.text = "."
    · rw [here, there]
    · rw [if_pos here, if_neg there] at same
      split at same <;> cases same
  · by_cases there : other.text = "."
    · rw [if_neg here, if_pos there] at same
      split at same <;> cases same
    · rw [if_neg here, if_neg there] at same
      exact PathPart.named.inj (List.cons.inj same).1

theorem versionParts_visible {root : Path} {version : FrontendVersion} {part : PathPart}
    (member : part ∈ versionParts root version) : part = .current ∨ ∃ name, part = .named name := by
  unfold versionParts at member
  split at member
  · split at member
    · exact .inl (List.mem_singleton.1 member)
    · cases member
  · exact .inr ⟨_, List.mem_singleton.1 member⟩

/-- The components directory leads from a checkout to names inside it. -/
def Inside (layout : Layout) : Prop :=
  Path.staysInside layout.components = true

theorem parts_specPath {layout : Layout} (inside : layout.Inside) (version : FrontendVersion)
    (component : ComponentName) :
    (layout.specPath version component).parts =
      layout.root.parts ++
        (versionParts layout.root version ++ Path.partsBelow layout.components.text) ++
        [.named component.text, .named (component.text ++ ".yaml")] := by
  have relative : Path.isAbsolute ⟨layout.components.text⟩ = false :=
    Path.isAbsolute_of_staysInside inside
  have checkout : (layout.root.join version.text).text ≠ "" :=
    Path.text_join_ne (.inr version.nonempty)
  have components : ((layout.root.join version.text).join layout.components.text).text ≠ "" :=
    Path.text_join_ne (.inl checkout)
  rw [specPath, Path.parts_join (Path.text_join_ne (.inl components))
      (Path.isAbsolute_of_notMem component.single_file),
    Path.parts_join components (Path.isAbsolute_of_notMem component.single),
    Path.parts_join checkout relative, parts_join_version,
    Path.partsBelow_of_notMem component.single, Path.partsBelow_of_notMem component.single_file,
    component.part?_eq, component.part?_file_eq]
  simp

theorem componentsOf_inside {root : Path} {setting? : Option String} {layout : Layout}
    (found : componentsOf root setting? = .ok layout) : layout.Inside := by
  cases setting? with
  | none =>
    have standard : Path.staysInside ⟨"src/govuk/components"⟩ = true := by decide
    cases found
    exact standard
  | some value =>
    rw [componentsOf] at found
    split at found
    · cases found
    · split at found
      · cases found
        assumption
      · cases found

theorem ofVariables_inside {variableValue? : String → Option String} {layout : Layout}
    (found : ofVariables variableValue? = .ok layout) : layout.Inside := by
  unfold ofVariables ofSettings at found
  cases root : rootOf (variableValue? rootVariable) with
  | error fault =>
    rw [root] at found
    cases found
  | ok root' =>
    rw [root] at found
    exact componentsOf_inside found

/-- Whatever the variables and the root are, the path of a spec goes from the root down through
names only and ends in the component, and it tells the version and the component. -/
theorem specPath_confined {variableValue? : String → Option String} {configured layout : Layout}
    (found : ofVariables variableValue? = .ok configured)
    (chosen : layout = configured ∨ ∃ root, layout = configured.withRoot root) :
    (∀ (versionText componentText : String) (version : FrontendVersion) (component : ComponentName),
      FrontendVersion.ofString versionText = .ok version →
      ComponentName.ofString componentText = .ok component →
      ∃ inside, (layout.specPath version component).parts =
          layout.root.parts ++ inside ++ [.named componentText, .named (componentText ++ ".yaml")] ∧
        ∀ part ∈ inside, part = .current ∨ ∃ name, part = .named name) ∧
    ∀ (version version' : FrontendVersion) (component component' : ComponentName),
      (layout.specPath version component).isSame (layout.specPath version' component') = true →
      version = version' ∧ component = component' := by
  have inside : layout.Inside := by
    rcases chosen with rfl | ⟨root, rfl⟩
    · exact ofVariables_inside found
    · have inside : configured.Inside := ofVariables_inside found
      exact inside
  constructor
  · intro versionText componentText version component accepted accepted'
    rw [← ComponentName.ofString_ok_iff.1 accepted']
    refine ⟨_, parts_specPath inside version component, fun part member => ?_⟩
    rcases List.mem_append.1 member with first | later
    · exact versionParts_visible first
    · exact .inr (Path.named_of_staysInside inside later)
  · intro version version' component component' same
    rw [Path.isSame, beq_iff_eq, parts_specPath inside, parts_specPath inside] at same
    obtain ⟨front, last⟩ := List.append_inj' same rfl
    have versions :=
      versionParts_injective (List.append_cancel_right (List.append_cancel_left front))
    have components := PathPart.named.inj (List.cons.inj last).1
    cases version
    cases component
    cases versions
    cases components
    exact ⟨rfl, rfl⟩

def looseVariables (name : String) : Option String :=
  if name = componentsVariable then some "./src//components" else none

theorem specPath_confined_loose :
    ofVariables looseVariables = .ok ⟨⟨"."⟩, ⟨"./src//components"⟩⟩ ∧
    FrontendVersion.ofString "." = .ok ⟨".", rfl⟩ ∧
      ComponentName.ofString "table" = .ok ⟨"table", rfl⟩ ∧
    (∃ inside, ((Layout.mk ⟨"../checkouts"⟩ ⟨"./src//components"⟩).specPath ⟨".", rfl⟩
        ⟨"table", rfl⟩).parts =
          [.parent, .named "checkouts"] ++ inside ++ [.named "table", .named "table.yaml"] ∧
      ∀ part ∈ inside, part = .current ∨ ∃ name, part = .named name) := by
  have found : ofVariables looseVariables = .ok ⟨⟨"."⟩, ⟨"./src//components"⟩⟩ := rfl
  refine ⟨found, rfl, rfl, ?_⟩
  exact (specPath_confined found (.inr ⟨⟨"../checkouts"⟩, rfl⟩)).1 "." "table" _ _ rfl rfl

end Layout

end ComponentSchema
