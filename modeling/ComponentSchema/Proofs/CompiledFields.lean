import Mathlib.Data.List.Forall2
import Mathlib.Data.List.Induction
import ComponentSchema.Compilation

/-! Fields of compiled objects: a table with one field for each name, at the place of the first
parameter of the name and from the last. -/

set_option autoImplicit false

namespace ComponentSchema

theorem mem_insertField {f field : Field Node} {fields : List (Field Node)}
    (member : f ∈ insertField field fields) : f = field ∨ f ∈ fields := by
  induction fields with
  | nil => exact .inl (List.mem_singleton.1 member)
  | cons first rest ih =>
    rw [insertField] at member
    split at member
    · rcases List.mem_cons.1 member with new | old
      · exact .inl new
      · exact .inr (List.mem_cons_of_mem first old)
    · rcases List.mem_cons.1 member with same | later
      · exact .inr (same ▸ List.mem_cons_self)
      · exact (ih later).imp_right (List.mem_cons_of_mem first)

theorem insertField_of_notMem {field : Field Node} {fields : List (Field Node)}
    (new : field.name ∉ fields.map (·.name)) : insertField field fields = fields ++ [field] := by
  induction fields with
  | nil => rfl
  | cons first rest ih =>
    rw [List.map_cons, List.mem_cons, not_or] at new
    rw [insertField, if_neg (Ne.symm new.1), ih new.2, List.cons_append]

theorem insertField_ne_nil (field : Field Node) (fields : List (Field Node)) :
    insertField field fields ≠ [] := by
  cases fields with
  | nil => simp [insertField]
  | cons first rest =>
    rw [insertField]
    split <;> simp

theorem names_insertField (field : Field Node) (fields : List (Field Node)) :
    (insertField field fields).map (·.name) =
      if field.name ∈ fields.map (·.name) then fields.map (·.name)
      else fields.map (·.name) ++ [field.name] := by
  induction fields with
  | nil => rfl
  | cons first rest ih =>
    rw [insertField]
    by_cases same : first.name = field.name
    · simp [same]
    · rw [if_neg same, List.map_cons, ih]
      split <;> simp_all [eq_comm]

theorem nodup_insertField (field : Field Node) {fields : List (Field Node)}
    (distinct : (fields.map (·.name)).Nodup) : ((insertField field fields).map (·.name)).Nodup := by
  rw [names_insertField]
  split
  · exact distinct
  · rename_i new
    simpa [List.nodup_append, distinct] using new

theorem find?_insertField (field : Field Node) (fields : List (Field Node)) (name : String) :
    (insertField field fields).find? (·.name == name) =
      if field.name = name then some field else fields.find? (·.name == name) := by
  induction fields with
  | nil => by_cases same : field.name = name <;> simp [insertField, same]
  | cons first rest ih =>
    rw [insertField]
    by_cases replaced : first.name = field.name
    · by_cases same : field.name = name <;> simp [replaced, same]
    · rw [if_neg replaced]
      by_cases found : first.name = name
      · have other : field.name ≠ name := fun same => replaced (found.trans same.symm)
        simp [found, other]
      · have skipped : (first.name == name) = false := by simpa using found
        simp only [List.find?, skipped, ih]

theorem find?_key_eq {α : Type} {key : α → String} {items : List α}
    (distinct : (items.map key).Nodup)
    {a : α} (member : a ∈ items) : items.find? (key · == key a) = some a := by
  induction items with
  | nil => cases member
  | cons first rest ih =>
    obtain ⟨alone, distinct⟩ := List.nodup_cons.1 distinct
    rcases List.mem_cons.1 member with rfl | later
    · simp
    · have skipped : (key first == key a) = false :=
        beq_eq_false_iff_ne.2 fun same => alone (same ▸ List.mem_map_of_mem later)
      simp only [List.find?, skipped, ih distinct later]

def lastNamed? (params : List Parameter) (name : String) : Option Parameter :=
  (params.filter (·.name == name)).getLast?

theorem lastNamed?_concat (params : List Parameter) (p : Parameter) (name : String) :
    lastNamed? (params ++ [p]) name = if p.name = name then some p else lastNamed? params name := by
  by_cases same : p.name = name <;> simp [lastNamed?, same]

theorem mem_of_lastNamed? {params : List Parameter} {name : String} {p : Parameter}
    (last : lastNamed? params name = some p) : p ∈ params :=
  (List.mem_filter.1 (List.mem_of_getLast? last)).1

namespace Compiler

variable (c : Compiler)

theorem field_eq (p : Parameter) :
    c.field p =
      { name := p.name
        required := c.requires p.name p.required
        node := c.fieldNode p.name p.type (c.fields [] p.nested) } := by
  obtain ⟨name, type, required, description, params⟩ := p
  cases params <;> simp [field, fields, Parameter.nested]

theorem name_field (p : Parameter) : (c.field p).name = p.name := by
  rw [field_eq]

theorem mem_fields {params : List Parameter} {earlier : List (Field Node)} {f : Field Node}
    (member : f ∈ c.fields earlier params) : f ∈ earlier ∨ ∃ p ∈ params, f = c.field p := by
  induction params generalizing earlier with
  | nil => exact .inl (by simpa [fields] using member)
  | cons p rest ih =>
    rw [fields] at member
    rcases ih member with inserted | ⟨q, later, same⟩
    · rcases mem_insertField inserted with new | old
      · exact .inr ⟨p, List.mem_cons_self, new⟩
      · exact .inl old
    · exact .inr ⟨q, List.mem_cons_of_mem p later, same⟩

theorem fields_ne_nil {params : List Parameter} {earlier : List (Field Node)}
    (nonempty : earlier ≠ [] ∨ params ≠ []) : c.fields earlier params ≠ [] := by
  induction params generalizing earlier with
  | nil => simpa [fields] using nonempty
  | cons p rest ih =>
    rw [fields]
    exact ih (.inl (insertField_ne_nil _ _))

theorem isEmpty_fields_iff {params : List Parameter} :
    (c.fields [] params).isEmpty = true ↔ params = [] := by
  rw [List.isEmpty_iff]
  cases params with
  | nil => simp [fields]
  | cons p rest =>
    have nonempty := List.cons_ne_nil p rest
    exact iff_of_false (c.fields_ne_nil (.inr nonempty)) nonempty

/-- Related parameters with equal fields give equal lists of fields, also under different
compilers. -/
theorem fields_eq_of_forall₂ {c other : Compiler} {related : Parameter → Parameter → Prop}
    {params others : List Parameter} (alike : List.Forall₂ related params others)
    (each : ∀ p ∈ params, ∀ q, related p q → c.field p = other.field q)
    (earlier : List (Field Node)) : c.fields earlier params = other.fields earlier others := by
  induction alike generalizing earlier with
  | nil => rfl
  | cons first _ ih =>
    rw [fields, fields, each _ List.mem_cons_self _ first]
    exact ih (fun p member => each p (List.mem_cons_of_mem _ member)) _

theorem fields_concat (earlier : List (Field Node)) (params : List Parameter) (p : Parameter) :
    c.fields earlier (params ++ [p]) = insertField (c.field p) (c.fields earlier params) := by
  induction params generalizing earlier with
  | nil => simp [fields]
  | cons first rest ih => rw [List.cons_append, fields, fields, ih]

theorem names_fields (params : List Parameter) :
    (c.fields [] params).map (·.name) = (params.map (·.name)).eraseDups := by
  induction params using List.reverseRecOn with
  | nil => rfl
  | append_singleton params p ih =>
    rw [fields_concat, names_insertField, ih, name_field, List.map_append, List.eraseDups_append]
    split <;> simp_all [List.removeAll, List.eraseDups_cons]

theorem nodup_fields (params : List Parameter) : ((c.fields [] params).map (·.name)).Nodup := by
  induction params using List.reverseRecOn with
  | nil => exact List.nodup_nil
  | append_singleton params p ih =>
    rw [fields_concat]
    exact nodup_insertField _ ih

theorem find?_fields (params : List Parameter) (name : String) :
    (c.fields [] params).find? (·.name == name) = (lastNamed? params name).map c.field := by
  induction params using List.reverseRecOn with
  | nil => rfl
  | append_singleton params p ih =>
    rw [fields_concat, find?_insertField, ih, name_field, lastNamed?_concat]
    split <;> rfl

theorem exists_last_of_mem_fields {params : List Parameter} {f : Field Node}
    (member : f ∈ c.fields [] params) : ∃ p, lastNamed? params f.name = some p ∧ f = c.field p := by
  have found := find?_key_eq (c.nodup_fields params) member
  rw [find?_fields, Option.map_eq_some_iff] at found
  obtain ⟨p, last, same⟩ := found
  exact ⟨p, last, same.symm⟩

theorem fields_eq_append_map {params : List Parameter} (earlier : List (Field Node))
    (distinct : (earlier.map (·.name) ++ params.map (·.name)).Nodup) :
    c.fields earlier params = earlier ++ params.map c.field := by
  induction params generalizing earlier with
  | nil => simp [fields]
  | cons p rest ih =>
    have new : (c.field p).name ∉ earlier.map (·.name) := by
      rw [name_field]
      intro old
      exact (List.nodup_append.1 distinct).2.2 _ old _ List.mem_cons_self rfl
    rw [fields, insertField_of_notMem new, ih _ (by simpa [name_field] using distinct)]
    simp

theorem fields_of_nodup {params : List Parameter} (distinct : (params.map (·.name)).Nodup) :
    c.fields [] params = params.map c.field := by
  simpa using c.fields_eq_append_map [] (by simpa using distinct)

end Compiler

/-! ### Nodes of compiled validators -/

/-- The node is the object, or arrays around it, or has no object in it. -/
inductive Node.Within (object : Node) : Node → Prop where
  | self : Within object object
  | array {n : Node} (below : Within object n) : Within object (.array (some n))
  | openArray : Within object (.array none)
  | leaf (kind : LeafKind) : Within object (.leaf kind)

namespace Compiler

variable (c : Compiler)

theorem within_typeNode (type : ParamType) (fields : List (Field Node)) :
    (openObject fields).Within (typeNode type fields) := by
  cases type with
  | object => exact .self
  | array =>
    rw [typeNode]
    split
    · exact .openArray
    · exact .array .self
  | _ => exact .leaf _

theorem within_fieldNode (name : String) (type : ParamType) (fields : List (Field Node)) :
    (openObject fields).Within (c.fieldNode name type fields) := by
  rw [fieldNode]
  split
  · exact .array (.array .self)
  · exact within_typeNode type fields

/-- What passes from the fields of every compiled object to the object, and from a node to the
arrays of it, holds of the whole tree. -/
theorem node_induction {motive : Node → Prop} (leaf : ∀ kind, motive (.leaf kind))
    (openArray : motive (.array none)) (array : ∀ n, motive n → motive (.array (some n)))
    (object : ∀ params, (∀ f ∈ c.fields [] params, motive f.node) →
      motive (openObject (c.fields [] params)))
    (params : List Parameter) : motive (c.compileNormalized params).params.node := by
  have each (p : Parameter) : motive (c.field p).node := by
    induction p using Parameter.induction with
    | step p ih =>
      have nested : motive (openObject (c.fields [] p.nested)) := by
        apply object
        intro f member
        rcases c.mem_fields member with none | ⟨q, nested, rfl⟩
        · cases none
        · exact ih q nested
      have within := c.within_fieldNode p.name p.type (c.fields [] p.nested)
      rw [field_eq]
      generalize c.fieldNode p.name p.type (c.fields [] p.nested) = n at within
      induction within with
      | self => exact nested
      | array _ below => exact array _ below
      | openArray => exact openArray
      | leaf kind => exact leaf kind
  apply object
  intro f member
  rcases c.mem_fields member with none | ⟨p, _, rfl⟩
  · cases none
  · exact each p

end Compiler

/-! ### Open nodes -/

/-- At every depth, objects accept members that they do not declare. -/
inductive Node.Open : Node → Prop where
  | leaf (kind : LeafKind) : Open (.leaf kind)
  | object {declared : List (Field Node)} (fields : ∀ f ∈ declared, f.node.Open) :
      Open (.object declared true)
  | openArray : Open (.array none)
  | array {element : Node} (each : element.Open) : Open (.array (some element))

theorem Compiler.open_compileNormalized (c : Compiler) (params : List Parameter) :
    (c.compileNormalized params).params.node.Open :=
  c.node_induction .leaf .openArray (fun _ => .array) (fun _ => .object) params

end ComponentSchema
