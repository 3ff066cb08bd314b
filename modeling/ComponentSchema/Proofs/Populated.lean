import Mathlib.Data.List.Nodup
import Mathlib.Tactic.Choose
import ComponentSchema.Issue
import ComponentSchema.Proofs.Conformance

/-! Objects with a typed value for every parameter: each spec has one, its validator accepts all of
them, and goes on to accept them when fields that may be absent are deleted anywhere inside. -/

set_option autoImplicit false

namespace ComponentSchema

open Json (Members Value)

/-! ### Deleting keys -/

namespace Json.Members

def without (name : String) (members : Members) : Members :=
  members.filter fun member => member.1 ≠ name

def adjust (name : String) (f : Value → Value) (members : Members) : Members :=
  members.map fun member => (member.1, if member.1 = name then f member.2 else member.2)

theorem lookup_without_self (name : String) (members : Members) :
    (members.without name).lookup name = none := by
  rw [List.lookup_eq_none_iff]
  intro member kept
  have other : member.1 ≠ name := of_decide_eq_true (List.mem_filter.1 kept).2
  exact bne_iff_ne.2 (Ne.symm other)

theorem lookup_without_of_ne {name other : String} (different : other ≠ name) (members : Members) :
    (members.without name).lookup other = members.lookup other := by
  induction members with
  | nil => rfl
  | cons member rest ih =>
    obtain ⟨key, value⟩ := member
    by_cases same : key = name
    · have skipped : without name ((key, value) :: rest) = without name rest := by
        simp [without, same]
      rw [skipped, ih, List.lookup_cons, same, beq_eq_false_iff_ne.2 different]
    · have kept : without name ((key, value) :: rest) = (key, value) :: without name rest := by
        simp [without, same]
      rw [kept, List.lookup_cons, List.lookup_cons, ih]

theorem lookup_adjust (name key : String) (f : Value → Value) (members : Members) :
    (members.adjust name f).lookup key =
      (members.lookup key).map fun value => if key = name then f value else value := by
  induction members with
  | nil => rfl
  | cons member rest ih =>
    obtain ⟨k, value⟩ := member
    change ((k, if k = name then f value else value) :: adjust name f rest).lookup key = _
    rw [List.lookup_cons, List.lookup_cons, ih]
    by_cases same : key = k
    · rw [same, beq_self_eq_true]
      rfl
    · rw [beq_eq_false_iff_ne.2 same]

end Json.Members

def Json.Value.erase : Value → Location → Value
  | .object members, [.key name] => .object (Members.without name members)
  | .object members, .key name :: path =>
    .object (Members.adjust name (fun value => erase value path) members)
  | .array items, .index i :: path => .array (items.modify i fun item => erase item path)
  | value, _ => value

theorem Json.Value.erase_key (members : Members) (name : String) {path : Location}
    (deeper : path ≠ []) : erase (.object members) (.key name :: path) =
      .object (Members.adjust name (fun value => erase value path) members) := by
  cases path with
  | nil => exact absurd rfl deeper
  | cons segment path => rfl

def Json.Value.ArrayOf (P : Value → Prop) (value : Value) : Prop :=
  ∃ items, value = .array items ∧ ∀ item ∈ items, P item

theorem Json.Value.arrayOf_map_iff {α : Type} {f : α → Value} {P : α → Prop} {value : Value} :
    ArrayOf (fun item => ∃ source, item = f source ∧ P source) value ↔
      ∃ sources : List α, value = .array (sources.map f) ∧ ∀ source ∈ sources, P source := by
  unfold ArrayOf
  simp only [← exists_eq_map_iff]
  constructor
  · rintro ⟨_, rfl, sources, rfl, each⟩
    exact ⟨sources, rfl, each⟩
  · rintro ⟨sources, rfl, each⟩
    exact ⟨_, rfl, sources, rfl, each⟩

theorem Json.Value.ArrayOf.erase {P : Value → Prop} {value : Value} (each : ArrayOf P value)
    (i : Nat) {path : Location} (keeps : ∀ item, P item → P (item.erase path)) :
    ArrayOf P (value.erase (.index i :: path)) := by
  obtain ⟨items, rfl, each⟩ := each
  refine ⟨items.modify i fun item => item.erase path, rfl, ?_⟩
  intro item member
  obtain ⟨j, found⟩ := List.getElem?_of_mem member
  rw [List.getElem?_modify] at found
  obtain ⟨old, here, rfl⟩ := Option.map_eq_some_iff.1 found
  have holds := each old (List.mem_of_getElem? here)
  split
  · exact keeps old holds
  · exact holds

/-! ### Populated objects -/

mutual

/-- An object that gives every parameter a value, typed as the parameter demands. -/
inductive Populated (t : OverrideTable) (component : String) : List Parameter → Members → Prop where
  | intro {params : List Parameter} {members : Members} (value : Parameter → Value)
      (given : ∀ p ∈ params, members.lookup p.name = some (value p))
      (typed : ∀ p ∈ params, Filled t component p (value p)) : Populated t component params members

/-- A value that fits a parameter, with all its objects populated. -/
inductive Filled (t : OverrideTable) (component : String) : Parameter → Value → Prop where
  | rows {p : Parameter} {rows : List (List Members)} (made : t.MakesRows component p)
      (cells : ∀ row ∈ rows, ∀ cell ∈ row, Populated t component p.nested cell) :
      Filled t component p (.array (rows.map fun row => .array (row.map .object)))
  | text {p : Parameter} (plain : ¬t.MakesRows component p)
      (type : p.type = .string ∨ p.type = .block) (s : String) : Filled t component p (.string s)
  | integer {p : Parameter} (plain : ¬t.MakesRows component p) (type : p.type = .integer)
      {n : Json.Number} (safe : n.SafeInteger) : Filled t component p (.number n)
  | boolean {p : Parameter} (plain : ¬t.MakesRows component p) (type : p.type = .boolean)
      (b : Bool) :
      Filled t component p (.boolean b)
  | unknown {p : Parameter} (plain : ¬t.MakesRows component p) {tag : String}
      (type : p.type = .unknown tag) (value : Value) : Filled t component p value
  | openArray {p : Parameter} (plain : ¬t.MakesRows component p) (type : p.type = .array)
      (bare : p.nested = []) (items : List Value) : Filled t component p (.array items)
  | array {p : Parameter} (plain : ¬t.MakesRows component p) (type : p.type = .array)
      (described : p.nested ≠ []) {objects : List Members}
      (each : ∀ members ∈ objects, Populated t component p.nested members) :
      Filled t component p (.array (objects.map .object))
  | object {p : Parameter} (plain : ¬t.MakesRows component p) (type : p.type = .object)
      {members : Members} (inside : Populated t component p.nested members) :
      Filled t component p (.object members)

end

section

variable {t : OverrideTable} {component : String}

theorem Populated.conforms_of_nested {params : List Parameter}
    (admits : ∀ p ∈ params, ∀ value, Filled t component p value → Admits t component p value)
    {members : Members} (populated : Populated t component params members) :
    Conforms t component params members := by
  obtain ⟨value, given, typed⟩ := populated
  apply Conforms.intro
  · intro p member found present
    rw [given p member] at present
    cases present
    exact admits p member _ (typed p member)
  · intro p member absent
    rw [given p member] at absent
    cases absent

theorem Filled.admits (p : Parameter) :
    ∀ value, Filled t component p value → Admits t component p value := by
  induction p using Parameter.induction with
  | step p ih =>
    have inside {members : Members} (populated : Populated t component p.nested members) :=
      populated.conforms_of_nested ih
    intro value filled
    cases filled with
    | rows made cells =>
      exact .rows made fun row inRows cell inRow => inside (cells row inRows cell inRow)
    | text plain type s =>
      refine .typed plain ?_
      rcases type with type | type
      · exact type ▸ .string s
      · exact type ▸ .block s
    | integer plain type safe => exact .typed plain (type ▸ .integer safe)
    | boolean plain type b => exact .typed plain (type ▸ .boolean b)
    | unknown plain type value => exact .typed plain (type ▸ .unknown _ value)
    | openArray plain type bare items => exact .typed plain (type ▸ bare ▸ .openArray items)
    | array plain type described each =>
      exact .typed plain (type ▸ .array described
        fun members member => inside (each members member))
    | object plain type populated => exact .typed plain (type ▸ .object (inside populated))

theorem Populated.conforms {params : List Parameter} {members : Members}
    (populated : Populated t component params members) : Conforms t component params members :=
  populated.conforms_of_nested fun p _ => Filled.admits p

/-! ### Conformance after deletion -/

def ConformsTo (t : OverrideTable) (component : String) (params : List Parameter) (value : Value) :
    Prop :=
  ∃ members, value = .object members ∧ Conforms t component params members

theorem admits_rows_iff {p : Parameter} (made : t.MakesRows component p) {value : Value} :
    Admits t component p value ↔
      value.ArrayOf (Value.ArrayOf (ConformsTo t component p.nested)) := by
  have row : Value.ArrayOf (ConformsTo t component p.nested) = fun value =>
      ∃ cells : List Members, value = .array (cells.map .object) ∧
        ∀ cell ∈ cells, Conforms t component p.nested cell :=
    funext fun value => propext Value.arrayOf_map_iff
  rw [row, Value.arrayOf_map_iff]
  constructor
  · intro admitted
    cases admitted with
    | rows _ cells => exact ⟨_, rfl, cells⟩
    | typed plain _ => exact absurd made plain
  · rintro ⟨rows, rfl, cells⟩
    exact .rows made cells

theorem admits_object_iff {p : Parameter} (plain : ¬t.MakesRows component p)
    (type : p.type = .object)
    {value : Value} : Admits t component p value ↔ ConformsTo t component p.nested value := by
  constructor
  · intro admitted
    cases admitted with
    | rows made _ => exact absurd made plain
    | typed _ typed =>
      rw [type] at typed
      cases typed with
      | object inside => exact ⟨_, rfl, inside⟩
  · rintro ⟨members, rfl, inside⟩
    exact .typed plain (type ▸ .object inside)

theorem admits_array_iff {p : Parameter} (plain : ¬t.MakesRows component p) (type : p.type = .array)
    (described : p.nested ≠ []) {value : Value} :
    Admits t component p value ↔ value.ArrayOf (ConformsTo t component p.nested) := by
  unfold ConformsTo
  rw [Value.arrayOf_map_iff]
  constructor
  · intro admitted
    cases admitted with
    | rows made _ => exact absurd made plain
    | typed _ typed =>
      rw [type] at typed
      generalize p.nested = nested at typed described
      cases typed with
      | openArray items => exact absurd rfl described
      | array _ each => exact ⟨_, rfl, each⟩
  · rintro ⟨objects, rfl, each⟩
    exact .typed plain (type ▸ .array described each)

theorem Conforms.without {params : List Parameter} {members : Members} {p : Parameter}
    (distinct : (params.map (·.name)).Nodup) (member : p ∈ params)
    (optional : p.required = false ∨ t.Forgives p.name)
    (conforms : Conforms t component params members) :
    Conforms t component params (Members.without p.name members) := by
  apply Conforms.intro
  · intro q listed value found
    by_cases same : q.name = p.name
    · rw [same, Members.lookup_without_self] at found
      cases found
    · rw [Members.lookup_without_of_ne same] at found
      exact conforms.present listed found
  · intro q listed missing
    by_cases same : q.name = p.name
    · rw [List.inj_on_of_nodup_map distinct listed member same]
      exact optional
    · rw [Members.lookup_without_of_ne same] at missing
      exact conforms.absent listed missing

theorem Conforms.adjust {params : List Parameter} {members : Members} {p : Parameter}
    (distinct : (params.map (·.name)).Nodup) (member : p ∈ params) {f : Value → Value}
    (keeps : ∀ value, Admits t component p value → Admits t component p (f value))
    (conforms : Conforms t component params members) :
    Conforms t component params (Members.adjust p.name f members) := by
  apply Conforms.intro
  · intro q listed value found
    rw [Members.lookup_adjust] at found
    obtain ⟨old, here, rfl⟩ := Option.map_eq_some_iff.1 found
    have admitted := conforms.present listed here
    split
    · rename_i same
      cases List.inj_on_of_nodup_map distinct listed member same
      exact keeps old admitted
    · exact admitted
  · intro q listed missing
    rw [Members.lookup_adjust, Option.map_eq_none_iff] at missing
    exact conforms.absent listed missing

/-- The positions of fields that may be absent: not required, or forgiven by their name. A position
leads through objects, elements of arrays, and cells of rows. -/
inductive Omittable (t : OverrideTable) (component : String) :
    List Parameter → Location → Prop where
  | field {params : List Parameter} {p : Parameter} (member : p ∈ params)
      (optional : p.required = false ∨ t.Forgives p.name) :
      Omittable t component params [.key p.name]
  | object {params : List Parameter} {p : Parameter} (member : p ∈ params)
      (plain : ¬t.MakesRows component p) (type : p.type = .object) {path : Location}
      (inside : Omittable t component p.nested path) :
      Omittable t component params (.key p.name :: path)
  | element {params : List Parameter} {p : Parameter} (member : p ∈ params)
      (plain : ¬t.MakesRows component p) (type : p.type = .array) (i : Nat) {path : Location}
      (inside : Omittable t component p.nested path) :
      Omittable t component params (.key p.name :: .index i :: path)
  | cell {params : List Parameter} {p : Parameter} (member : p ∈ params)
      (made : t.MakesRows component p) (i j : Nat) {path : Location}
      (inside : Omittable t component p.nested path) :
      Omittable t component params (.key p.name :: .index i :: .index j :: path)

theorem Omittable.params_ne_nil {params : List Parameter} {path : Location}
    (omittable : Omittable t component params path) : params ≠ [] := by
  cases omittable <;> exact List.ne_nil_of_mem ‹_›

theorem Omittable.path_ne_nil {params : List Parameter} {path : Location}
    (omittable : Omittable t component params path) : path ≠ [] := by
  cases omittable <;> exact List.cons_ne_nil _ _

/-- Deleting one field that may be absent keeps an object conforming. -/
theorem Omittable.conformsTo_erase {params : List Parameter} {path : Location}
    (omittable : Omittable t component params path) (normal : Normal params) (value : Value)
    (conforms : ConformsTo t component params value) :
    ConformsTo t component params (value.erase path) := by
  -- A step into a field adjusts the value under its name, and no other parameter has that name.
  induction omittable generalizing value with
  | field member optional =>
    obtain ⟨members, rfl, conforms⟩ := conforms
    exact ⟨_, rfl, conforms.without normal.distinct member optional⟩
  | object member plain type inside ih =>
    obtain ⟨members, rfl, conforms⟩ := conforms
    rw [Value.erase_key members _ inside.path_ne_nil]
    refine ⟨_, rfl, conforms.adjust normal.distinct member fun value admitted => ?_⟩
    rw [admits_object_iff plain type] at admitted ⊢
    exact ih (normal.nested member) value admitted
  | element member plain type i inside ih =>
    obtain ⟨members, rfl, conforms⟩ := conforms
    refine ⟨_, rfl, conforms.adjust normal.distinct member fun value admitted => ?_⟩
    rw [admits_array_iff plain type inside.params_ne_nil] at admitted ⊢
    exact admitted.erase i (ih (normal.nested member))
  | cell member made i j inside ih =>
    obtain ⟨members, rfl, conforms⟩ := conforms
    refine ⟨_, rfl, conforms.adjust normal.distinct member fun value admitted => ?_⟩
    rw [admits_rows_iff made] at admitted ⊢
    exact admitted.erase i fun row cells => cells.erase j (ih (normal.nested member))

theorem conformsTo_foldl_erase {params : List Parameter} (normal : Normal params)
    {paths : List Location}
    (omittable : ∀ path ∈ paths, Omittable t component params path) {value : Value}
    (conforms : ConformsTo t component params value) :
    ConformsTo t component params (paths.foldl Value.erase value) := by
  induction paths generalizing value with
  | nil => exact conforms
  | cons path rest ih =>
    rw [List.forall_mem_cons] at omittable
    exact ih omittable.2 (omittable.1.conformsTo_erase normal value conforms)

/-! ### Populated objects exist, and are accepted -/

theorem lookup_map_name {params : List Parameter} (distinct : (params.map (·.name)).Nodup)
    (value : Parameter → Value) {p : Parameter} (member : p ∈ params) :
    (params.map fun p => (p.name, value p)).lookup p.name = some (value p) := by
  induction params with
  | nil => cases member
  | cons q rest ih =>
    rw [List.map_cons, List.nodup_cons] at distinct
    rw [List.map_cons, List.lookup_cons]
    cases member with
    | head => rw [beq_self_eq_true]
    | tail _ later =>
      have other : p.name ≠ q.name := fun same => distinct.1 (same ▸ List.mem_map_of_mem later)
      rw [beq_eq_false_iff_ne.2 other]
      exact ih distinct.2 later

theorem exists_populated_of_filled {params : List Parameter}
    (distinct : (params.map (·.name)).Nodup)
    (filled : ∀ p ∈ params, ∃ value, Filled t component p value) :
    ∃ members, Populated t component params members := by
  choose! value filled using filled
  exact ⟨_, value, fun p member => lookup_map_name distinct value member, filled⟩

theorem exists_filled (p : Parameter) (normal : Normal p.nested) :
    ∃ value, Filled t component p value := by
  induction p using Parameter.induction with
  | step p ih =>
    by_cases made : t.MakesRows component p
    · exact ⟨.array [], @Filled.rows t component p [] made (List.forall_mem_nil _)⟩
    · cases type : p.type with
      | boolean => exact ⟨_, .boolean made type false⟩
      | string => exact ⟨_, .text made (.inl type) ""⟩
      | block => exact ⟨_, .text made (.inr type) ""⟩
      | integer =>
        have safe : (Json.Number.unsigned 0).SafeInteger :=
          ⟨0, by simp [Json.Number.value], by decide, by decide⟩
        exact ⟨_, .integer made type safe⟩
      | unknown tag => exact ⟨.null, .unknown made type .null⟩
      | array =>
        by_cases bare : p.nested = []
        · exact ⟨_, .openArray made type bare []⟩
        · exact ⟨.array [], @Filled.array t component p made type bare [] (List.forall_mem_nil _)⟩
      | object =>
        obtain ⟨members, populated⟩ := exists_populated_of_filled normal.distinct
          fun q member => ih q member (normal.nested member)
        exact ⟨_, .object made type populated⟩

theorem accepted_of_conforms {spec : Spec} {params : Members}
    (conforms : Conforms t component (normalize spec.params) params) :
    (((Compiler.mk t component).compile spec).validate
      (.object [("params", .object params)])).value =
      .ok params := by
  have normal := normal_normalize spec.params
  have faithful : ∀ p ∈ normalize spec.params, (Compiler.mk t component).Faithful p :=
    fun p member => Compiler.faithful_of_normal p (normal.nested member)
  have root := Compiler.findings_object_iff normal.distinct faithful (.object params)
  have envelope : paramsOf (.object [("params", .object params)]) = .ok params := rfl
  rw [Validator.value_validate_eq_ok_iff, Validator.check_of_paramsOf_ok envelope,
    List.map_eq_nil_iff]
  exact ⟨root.2 ⟨params, rfl, conforms⟩, envelope⟩

/-- Every spec has populated objects, and its validator accepts them, also after fields that may be
absent have been deleted at any positions. -/
theorem populated_accepted (t : OverrideTable) (component : String) (spec : Spec) :
    (∃ members, Populated t component (normalize spec.params) members) ∧
    ∀ (members : Members) (paths : List Location),
      Populated t component (normalize spec.params) members →
      (∀ path ∈ paths, Omittable t component (normalize spec.params) path) →
      ∃ params, paths.foldl Value.erase (.object members) = .object params ∧
        (((Compiler.mk t component).compile spec).validate
          (.object [("params", .object params)])).value =
          .ok params := by
  have normal := normal_normalize spec.params
  constructor
  · exact exists_populated_of_filled normal.distinct
      fun p member => exists_filled p (normal.nested member)
  · intro members paths populated omittable
    obtain ⟨params, same, conforms⟩ :=
      conformsTo_foldl_erase normal omittable ⟨members, rfl, populated.conforms⟩
    exact ⟨params, same, accepted_of_conforms conforms⟩

end

def tableMembers : Members :=
  [("icon", .null), ("rows", .array [.array [.object [("text", .string "A")]]])]

/-- The text of the cell, whose name is forgiven, and the icon, which is not required. -/
def tableDeletions : List Location :=
  [[.key "rows", .index 0, .index 0, .key "text"], [.key "icon"]]

theorem populated_accepted_table :
    Populated .standard "table" (normalize tableParams) tableMembers ∧
    (∀ path ∈ tableDeletions, Omittable .standard "table" (normalize tableParams) path) ∧
    ∃ params, tableDeletions.foldl Value.erase (.object tableMembers) = .object params ∧
      (((Compiler.mk .standard "table").compile { params := tableParams }).validate
        (.object [("params", .object params)])).value = .ok params := by
  have rows : OverrideTable.standard.MakesRows "table" tableParams[0] :=
    ⟨⟨_, List.mem_singleton_self _, rfl, rfl⟩, List.cons_ne_nil _ _⟩
  have populated : Populated .standard "table" (normalize tableParams) tableMembers := by
    rw [normal_tableParams.normalize_eq]
    apply Populated.intro fun p => (tableMembers.lookup p.name).getD .null
    · intro p member
      rcases List.mem_cons.1 member with rfl | member
      · rfl
      · cases List.mem_singleton.1 member
        rfl
    · intro p member
      rcases List.mem_cons.1 member with rfl | member
      · have cells : ∀ row ∈ [[[("text", .string "A")]]], ∀ cell ∈ row,
            Populated .standard "table" tableParams[0].nested cell := by
          intro row inRows cell inRow
          cases List.mem_singleton.1 inRows
          cases List.mem_singleton.1 inRow
          apply Populated.intro fun _ => .string "A"
          · intro q member
            cases List.mem_singleton.1 member
            rfl
          · intro q member
            cases List.mem_singleton.1 member
            exact .text (fun made => made.2 rfl) (.inl rfl) "A"
        exact .rows rows cells
      · cases List.mem_singleton.1 member
        exact .unknown (fun made => made.2 rfl) rfl .null
  have omittable : ∀ path ∈ tableDeletions,
      Omittable .standard "table" (normalize tableParams) path := by
    rw [normal_tableParams.normalize_eq]
    intro path member
    rcases List.mem_cons.1 member with rfl | member
    · have text : OverrideTable.standard.Forgives "text" :=
        ⟨"text", List.mem_cons_self, [], "text".toList, rfl, rfl⟩
      exact .cell List.mem_cons_self rows 0 0 (.field List.mem_cons_self (.inr text))
    · cases List.mem_singleton.1 member
      exact .field (List.mem_cons_of_mem _ List.mem_cons_self) (.inl rfl)
  exact ⟨populated, omittable,
    (populated_accepted .standard "table" { params := tableParams }).2 _ _ populated omittable⟩

end ComponentSchema
