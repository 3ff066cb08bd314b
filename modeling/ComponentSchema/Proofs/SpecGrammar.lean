import ComponentSchema.Spec.Document
import ComponentSchema.Proofs.DecodedRecords

/-! The grammar of specs as values. A record is an object or an array of its fields; decoding
accepts the values of the grammar, and gives each field what stands there or its default. -/

set_option autoImplicit false

namespace ComponentSchema

open Json (Members Value)

/-! ### Fields of a record -/

/-- The only item of a list, if there is one at all; several are refused. -/
def onlyItem? {α : Type} : List α → Option (Option α)
  | [] => some none
  | [a] => some (some a)
  | _ => none

/-- The items of a list, followed by nothing up to a length; a longer list is refused. -/
def padded? {α : Type} (length : Nat) (items : List α) : Option (List (Option α)) :=
  if items.length ≤ length then
    some (items.map some ++ List.replicate (length - items.length) none)
  else none

@[simp] theorem padded?_nil {α : Type} (length : Nat) :
    padded? length ([] : List α) = some (List.replicate length none) := by
  simp [padded?]

@[simp] theorem padded?_zero_cons {α : Type} (item : α) (items : List α) :
    padded? 0 (item :: items) = none := by
  simp [padded?]

@[simp] theorem padded?_succ_cons {α : Type} (length : Nat) (item : α) (items : List α) :
    padded? (length + 1) (item :: items) = (padded? length items).map (some item :: ·) := by
  by_cases short : items.length ≤ length <;> simp [padded?, short]

/-- What a value gives for the fields of a record, in declaration order: an object the members of
their names, an array its items. -/
def Record.given? (kind : Record) : Value → Option (List (Option Value))
  | .object members => kind.fields.mapM fun field => onlyItem? (valuesOf field.name members)
  | .array items => padded? kind.fields.length items
  | _ => none

/-- What is given for a field is written for its content, or nothing is and the content is the
default. -/
def Holds {α : Type} (write : α → Value) (default : α) (given : Option Value) (content : α) :
    Prop :=
  given = some (write content) ∨ given = none ∧ content = default

def orNull {α : Type} (write : α → Value) : Option α → Value
  | some a => write a
  | none => .null

/-! ### The grammar -/

/-- The value is an example: a name, any data, and whether it is hidden. -/
inductive Example.Spelled (e : Example) (v : Value) : Prop where
  | intro {data? hidden? : Option Value}
      (record : Record.example.given? v = some [some (.string e.name), data?, hidden?])
      (data : Holds id .null data? e.data)
      (hidden : Holds .boolean false hidden? e.hidden)

/-- What is given for the fields of a parameter: its name, the tag of its type, and what may be left
out. The nested parameters are told from the items they stand in. -/
inductive Parameter.Given (spelled : Parameter → Value → Prop) :
    List (Option Value) → Parameter → Prop where
  | intro {p : Parameter} {tag : String} {required? description? params? : Option Value}
      {items : List Value}
      (type : p.type = .ofTag tag)
      (required : Holds .boolean false required? p.required)
      (description : Holds (orNull .string) none description? p.description)
      (params : Holds (orNull fun _ => .array items) none params? p.params)
      (nested : List.Forall₂ spelled p.nested items) :
      Given spelled [some (.string p.name), some (.string tag), required?, description?, params?] p

/-- The value is a parameter, and so are the items it is nested in, at every depth. -/
inductive Parameter.Spelled : Parameter → Value → Prop where
  | intro {p : Parameter} {v : Value} {given : List (Option Value)}
      (record : Record.parameter.given? v = some given) (fields : p.Given Spelled given) :
      Spelled p v

/-- The value is a spec: arrays of parameters and of examples, each of which may be left out. -/
inductive Spec.Spelled (spec : Spec) (v : Value) : Prop where
  | intro {params? examples? : Option Value} {items uses : List Value}
      (record : Record.spec.given? v = some [params?, examples?])
      (params : Holds (fun _ => .array items) [] params? spec.params)
      (eachParam : List.Forall₂ Parameter.Spelled spec.params items)
      (examples : Holds (fun _ => .array uses) [] examples? spec.examples)
      (eachExample : List.Forall₂ Example.Spelled spec.examples uses)

/-! ### Reading fields -/

theorem collected_none_iff {α : Type} {members : Members} {field : String}
    {read : Value → Except Mismatch α} {after : Option α} :
    Collected members field read none after ↔
      ∃ given, onlyItem? (valuesOf field members) = some given ∧ given.mapM read = .ok after := by
  rw [Collected]
  rcases valuesOf field members with _ | ⟨value, _ | ⟨second, rest⟩⟩
  · simp [onlyItem?, pure, Except.pure, eq_comm]
  · cases read value <;> simp [onlyItem?, once, Option.mapM_some, *]
  · simp [onlyItem?]

theorem textOfJson_eq_ok_iff {v : Value} {text : String} :
    textOfJson v = .ok text ↔ v = .string text := by
  cases v <;> simp [textOfJson]

theorem flagOfJson_eq_ok_iff {v : Value} {flag : Bool} :
    flagOfJson v = .ok flag ↔ v = .boolean flag := by
  cases v <;> simp [flagOfJson]

theorem optionalTextOfJson_eq_ok_iff {v : Value} {text : Option String} :
    optionalTextOfJson v = .ok text ↔ v = orNull .string text := by
  cases v <;> cases text <;> simp [optionalTextOfJson, textOfJson, orNull]

theorem parametersOfJson_eq_ok_iff {v : Value} {params : List Parameter} :
    parametersOfJson v = .ok params ↔
      ∃ items, v = .array items ∧
        List.Forall₂ (fun p item => Parameter.ofJson item = .ok p) params items := by
  cases v <;> simp [parametersOfJson, parametersOfItems_eq_mapM, Except.mapM_eq_ok_iff]

theorem examplesOfJson_eq_ok_iff {v : Value} {examples : List Example} :
    examplesOfJson v = .ok examples ↔
      ∃ items, v = .array items ∧
        List.Forall₂ (fun e item => Example.ofJson item = .ok e) examples items := by
  cases v <;> simp [examplesOfJson, Except.mapM_eq_ok_iff]

theorem nestedOfJson_eq_ok_iff {v : Value} {params : Option (List Parameter)} :
    nestedOfJson v = .ok params ↔
      ∃ items, v = orNull (fun _ => .array items) params ∧
        List.Forall₂ (fun p item => Parameter.ofJson item = .ok p) (params.getD []) items := by
  cases v <;> cases params <;>
    simp [nestedOfJson, orNull, parametersOfItems_eq_mapM, Except.map_eq_ok_iff,
      Except.mapM_eq_ok_iff]

/-! ### Records from what is given -/

section

variable {α : Type} {read : Value → Except Mismatch α} {supplied : Option Value} {content : α}

theorem given_mapM_iff {write : α → Value} (field : String)
    (reads : ∀ v a, read v = .ok a ↔ v = write a) :
    (∃ entry, supplied.mapM read = .ok entry ∧ given field entry = .ok content) ↔
      supplied = some (write content) := by
  cases supplied with
  | none => simp [given, pure, Except.pure]
  | some v => simp [given, Option.mapM_some, Except.map_eq_ok_iff, reads]

theorem holds_iff {write : α → Value} {default : α} (reads : ∀ v a, read v = .ok a ↔ v = write a) :
    (∃ entry, supplied.mapM read = .ok entry ∧ entry.getD default = content) ↔
      Holds write default supplied content := by
  cases supplied with
  | none => simp [Holds, pure, Except.pure, eq_comm]
  | some v => simp [Holds, Option.mapM_some, Except.map_eq_ok_iff, reads]

theorem holds_items_iff {β : Type} {spelled : β → Value → Prop} {elements : α → List β}
    {write : List Value → α → Value} {default : α} (empty : elements default = [])
    (reads : ∀ v a, read v = .ok a ↔
      ∃ items, v = write items a ∧ List.Forall₂ spelled (elements a) items) :
    (∃ entry, supplied.mapM read = .ok entry ∧ entry.getD default = content) ↔
      ∃ items, Holds (write items) default supplied content ∧
        List.Forall₂ spelled (elements content) items := by
  cases supplied with
  | none =>
    simp only [Holds, Option.mapM_none, pure, Except.pure, reduceCtorEq, true_and, false_or]
    constructor
    · rintro ⟨_, ⟨⟩, rfl⟩
      exact ⟨[], rfl, by rw [Option.getD_none, empty]; exact .nil⟩
    · rintro ⟨_, rfl, -⟩
      exact ⟨none, rfl, rfl⟩
  | some v => simp [Holds, Option.mapM_some, Except.map_eq_ok_iff, reads]

end

theorem Parameter.given_iff {spelled : Parameter → Value → Prop} {p : Parameter}
    {name? type? required? description? params? : Option Value} :
    p.Given spelled [name?, type?, required?, description?, params?] ↔
      name? = some (.string p.name) ∧ (∃ tag, type? = some (.string tag) ∧ p.type = .ofTag tag) ∧
      Holds .boolean false required? p.required ∧
      Holds (orNull .string) none description? p.description ∧
      ∃ items, Holds (orNull fun _ => .array items) none params? p.params ∧
        List.Forall₂ spelled p.nested items := by
  constructor
  · rintro ⟨type, required, description, params, nested⟩
    exact ⟨rfl, ⟨_, rfl, type⟩, required, description, _, params, nested⟩
  · rintro ⟨rfl, ⟨tag, rfl, type⟩, required, description, items, params, nested⟩
    exact .intro type required description params nested

def ParameterDraft.ofGiven (name? type? required? description? params? : Option Value) :
    Except Mismatch ParameterDraft := do
  return { name := ← name?.mapM textOfJson
           type := ← type?.mapM textOfJson
           required := ← required?.mapM flagOfJson
           description := ← description?.mapM optionalTextOfJson
           params := ← params?.mapM nestedOfJson }

theorem ParameterDraft.ofGiven_eq_ok_iff {draft : ParameterDraft}
    {name? type? required? description? params? : Option Value} :
    ofGiven name? type? required? description? params? = .ok draft ↔
      name?.mapM textOfJson = .ok draft.name ∧ type?.mapM textOfJson = .ok draft.type ∧
      required?.mapM flagOfJson = .ok draft.required ∧
      description?.mapM optionalTextOfJson = .ok draft.description ∧
      params?.mapM nestedOfJson = .ok draft.params := by
  simp only [ofGiven, Except.bind_eq_ok_iff, pure, Except.pure, Except.ok.injEq]
  constructor
  · rintro ⟨name, rn, type, rt, required, rr, description, rd, params, rp, rfl⟩
    exact ⟨rn, rt, rr, rd, rp⟩
  · rintro ⟨rn, rt, rr, rd, rp⟩
    exact ⟨_, rn, _, rt, _, rr, _, rd, _, rp, rfl⟩

theorem ParameterDraft.finish_complete (name type : String) (required : Option Bool)
    (description : Option (Option String)) (params : Option (Option (List Parameter))) :
    finish { name := some name, type := some type, required, description, params } =
      pure { name, type := .ofTag type, required := required.getD false
             description := description.getD none, params := params.getD none } := rfl

theorem ParameterDraft.finish_eq_ok_iff {draft : ParameterDraft} {p : Parameter} :
    draft.finish = .ok p ↔
      given "name" draft.name = .ok p.name ∧
      (∃ tag, given "type" draft.type = .ok tag ∧ p.type = .ofTag tag) ∧
      draft.required.getD false = p.required ∧ draft.description.getD none = p.description ∧
      draft.params.getD none = p.params := by
  obtain ⟨_, _, _, _, _⟩ := p
  simp only [finish, Except.bind_eq_ok_iff, pure, Except.pure, Except.ok.injEq, Parameter.mk.injEq]
  constructor
  · rintro ⟨name, hasName, tag, hasType, rfl, rfl, required, description, params⟩
    exact ⟨hasName, ⟨tag, hasType, rfl⟩, required, description, params⟩
  · rintro ⟨hasName, ⟨tag, hasType, rfl⟩, required, description, params⟩
    exact ⟨_, hasName, tag, hasType, rfl, rfl, required, description, params⟩

theorem ParameterDraft.finish_ne_ok_of_untyped {name? required? description? params? : Option Value}
    (draft : ParameterDraft) (reads : ofGiven name? none required? description? params? = .ok draft)
    (p : Parameter) : draft.finish ≠ .ok p := by
  intro finished
  obtain ⟨-, untyped, -⟩ := ofGiven_eq_ok_iff.1 reads
  obtain ⟨-, ⟨tag, typed, -⟩, -⟩ := finish_eq_ok_iff.1 finished
  rw [← Except.ok.inj untyped] at typed
  cases typed

/-- What is given is read into a draft, field by field, and the draft is complete. -/
theorem Parameter.given_iff_draft {p : Parameter}
    {name? type? required? description? params? : Option Value} :
    p.Given (fun q item => Parameter.ofJson item = .ok q)
        [name?, type?, required?, description?, params?] ↔
      ∃ draft, ParameterDraft.ofGiven name? type? required? description? params? = .ok draft ∧
        draft.finish = .ok p := by
  simp only [ParameterDraft.ofGiven_eq_ok_iff]
  constructor
  · intro fields
    obtain ⟨name, ⟨tag, type, known⟩, required, description, nested⟩ := given_iff.1 fields
    obtain ⟨name, readName, hasName⟩ :=
      (given_mapM_iff "name" fun _ _ => textOfJson_eq_ok_iff).2 name
    obtain ⟨type, readType, hasType⟩ :=
      (given_mapM_iff "type" fun _ _ => textOfJson_eq_ok_iff).2 type
    obtain ⟨required, readRequired, isRequired⟩ :=
      (holds_iff fun _ _ => flagOfJson_eq_ok_iff).2 required
    obtain ⟨description, readDescription, isDescription⟩ :=
      (holds_iff fun _ _ => optionalTextOfJson_eq_ok_iff).2 description
    obtain ⟨params, readParams, isParams⟩ :=
      (holds_items_iff rfl fun _ _ => nestedOfJson_eq_ok_iff).2 nested
    exact ⟨⟨name, type, required, description, params⟩,
      ⟨readName, readType, readRequired, readDescription, readParams⟩,
      ParameterDraft.finish_eq_ok_iff.2
        ⟨hasName, ⟨tag, hasType, known⟩, isRequired, isDescription, isParams⟩⟩
  · rintro ⟨draft, ⟨readName, readType, readRequired, readDescription, readParams⟩, finished⟩
    obtain ⟨hasName, ⟨tag, hasType, known⟩, isRequired, isDescription, isParams⟩ :=
      ParameterDraft.finish_eq_ok_iff.1 finished
    exact given_iff.2
      ⟨(given_mapM_iff "name" fun _ _ => textOfJson_eq_ok_iff).1 ⟨_, readName, hasName⟩,
        ⟨tag, (given_mapM_iff "type" fun _ _ => textOfJson_eq_ok_iff).1 ⟨_, readType, hasType⟩,
          known⟩,
        (holds_iff fun _ _ => flagOfJson_eq_ok_iff).1 ⟨_, readRequired, isRequired⟩,
        (holds_iff fun _ _ => optionalTextOfJson_eq_ok_iff).1 ⟨_, readDescription, isDescription⟩,
        (holds_items_iff rfl fun _ _ => nestedOfJson_eq_ok_iff).1 ⟨_, readParams, isParams⟩⟩

/-- Items are read as what they give for the fields; a name alone is not enough, and a sixth item
too much. -/
theorem parameterOfItems_eq_ok_iff_draft {p : Parameter} {items : List Value} :
    parameterOfItems items = .ok p ↔
      ∃ name? type? required? description? params?,
        padded? 5 items = some [name?, type?, required?, description?, params?] ∧
        (ParameterDraft.ofGiven name? type? required? description? params? >>=
          ParameterDraft.finish) = .ok p := by
  rcases items with _ | ⟨name, _ | ⟨type, _ | ⟨required, _ | ⟨description, _ | ⟨params, _ | _⟩⟩⟩⟩⟩
  · simpa [parameterOfItems, Except.bind_eq_ok_iff] using fun draft reads =>
      ParameterDraft.finish_ne_ok_of_untyped draft reads p
  · simpa [parameterOfItems, Except.bind_eq_ok_iff] using fun draft reads =>
      ParameterDraft.finish_ne_ok_of_untyped draft reads p
  · simp [parameterOfItems, ParameterDraft.ofGiven, ParameterDraft.finish_complete]
  · simp [parameterOfItems, ParameterDraft.ofGiven, ParameterDraft.finish_complete]
  · simp [parameterOfItems, ParameterDraft.ofGiven, ParameterDraft.finish_complete]
  · simp [parameterOfItems, ParameterDraft.ofGiven, ParameterDraft.finish_complete]
  · simp [parameterOfItems, Except.bind_eq_ok_iff]

theorem parameterOfItems_eq_ok_iff {p : Parameter} {items : List Value} :
    parameterOfItems items = .ok p ↔
      ∃ given, Record.parameter.given? (.array items) = some given ∧
        p.Given (fun q item => Parameter.ofJson item = .ok q) given := by
  have given : Record.parameter.given? (.array items) = padded? 5 items := rfl
  rw [given, parameterOfItems_eq_ok_iff_draft]
  constructor
  · rintro ⟨name?, type?, required?, description?, params?, padded, read⟩
    exact ⟨_, padded, Parameter.given_iff_draft.2 (Except.bind_eq_ok_iff.1 read)⟩
  · rintro ⟨_, padded, fields⟩
    cases fields with
    | intro type required description params nested =>
      have fields := Parameter.Given.intro type required description params nested
      exact ⟨_, _, _, _, _, padded, Except.bind_eq_ok_iff.2 (Parameter.given_iff_draft.1 fields)⟩

theorem Record.parameter_given?_object_iff {members : Members} {given : List (Option Value)} :
    Record.parameter.given? (.object members) = some given ↔
      ∃ name? type? required? description? params?,
        given = [name?, type?, required?, description?, params?] ∧
        onlyItem? (valuesOf "name" members) = some name? ∧
        onlyItem? (valuesOf "type" members) = some type? ∧
        onlyItem? (valuesOf "required" members) = some required? ∧
        onlyItem? (valuesOf "description" members) = some description? ∧
        onlyItem? (valuesOf "params" members) = some params? := by
  simp only [Record.given?, Record.fields, List.mapM_cons, List.mapM_nil, Option.bind_eq_bind,
    Option.bind_eq_some_iff, Option.pure_def, Option.some.injEq]
  constructor
  · rintro ⟨name?, name, _, ⟨type?, type, _, ⟨required?, required, _, ⟨description?, description, _,
      ⟨params?, params, _, rfl, rfl⟩, rfl⟩, rfl⟩, rfl⟩, rfl⟩
    exact ⟨_, _, _, _, _, rfl, name, type, required, description, params⟩
  · rintro ⟨name?, type?, required?, description?, params?, rfl, name, type, required, description,
      params⟩
    exact ⟨_, name, _,
      ⟨_, type, _, ⟨_, required, _, ⟨_, description, _, ⟨_, params, _, rfl, rfl⟩, rfl⟩,
      rfl⟩, rfl⟩, rfl⟩

/-- The members of an object are read into a draft, whatever they are, and what is given for each
field is the only one of its name. -/
theorem Parameter.ofJson_object_iff {p : Parameter} {members : Members} :
    Parameter.ofJson (.object members) = .ok p ↔
      ∃ given, Record.parameter.given? (.object members) = some given ∧
        p.Given (fun q item => Parameter.ofJson item = .ok q) given := by
  simp only [Parameter.ofJson, Except.bind_eq_ok_iff, parameterMembers_eq_ok_iff_collected,
    collected_none_iff]
  constructor
  · rintro ⟨draft, ⟨⟨name?, name, rn⟩, ⟨type?, type, rt⟩, ⟨required?, required, rr⟩,
      ⟨description?, description, rd⟩, ⟨params?, params, rp⟩⟩, finished⟩
    exact ⟨_, Record.parameter_given?_object_iff.2
      ⟨_, _, _, _, _, rfl, name, type, required, description, params⟩,
      given_iff_draft.2 ⟨draft, ParameterDraft.ofGiven_eq_ok_iff.2 ⟨rn, rt, rr, rd, rp⟩, finished⟩⟩
  · rintro ⟨given, record, fields⟩
    obtain ⟨_, _, _, _, _, rfl, name, type, required, description, params⟩ :=
      Record.parameter_given?_object_iff.1 record
    obtain ⟨draft, reads, finished⟩ := given_iff_draft.1 fields
    obtain ⟨rn, rt, rr, rd, rp⟩ := ParameterDraft.ofGiven_eq_ok_iff.1 reads
    exact ⟨draft, ⟨⟨_, name, rn⟩, ⟨_, type, rt⟩, ⟨_, required, rr⟩, ⟨_, description, rd⟩,
      ⟨_, params, rp⟩⟩,
      finished⟩

theorem Parameter.ofJson_eq_ok_iff {p : Parameter} {v : Value} :
    Parameter.ofJson v = .ok p ↔
      ∃ given, Record.parameter.given? v = some given ∧
        p.Given (fun q item => Parameter.ofJson item = .ok q) given := by
  cases v with
  | object members => exact ofJson_object_iff
  | array items => rw [Parameter.ofJson, parameterOfItems_eq_ok_iff]
  | _ => simp [Parameter.ofJson, Record.given?]

/-! ### Values of the grammar -/

theorem Parameter.Given.imp {spelled spelled' : Parameter → Value → Prop} {p : Parameter}
    {given : List (Option Value)} (nested : ∀ q ∈ p.nested, ∀ v, spelled q v → spelled' q v)
    (fields : p.Given spelled given) : p.Given spelled' given := by
  obtain ⟨type, required, description, params, each⟩ := fields
  refine .intro type required description params ?_
  exact ((List.forall₂_and_left _ _).2 ⟨nested, each⟩).imp fun q v ⟨imp, spelled⟩ => imp v spelled

theorem Parameter.ofJson_eq_ok_iff_spelled {p : Parameter} {v : Value} :
    Parameter.ofJson v = .ok p ↔ p.Spelled v := by
  induction p using Parameter.induction generalizing v with
  | step p nested =>
    rw [ofJson_eq_ok_iff]
    constructor
    · rintro ⟨given, record, fields⟩
      exact .intro record (fields.imp fun q member item => (nested q member).1)
    · rintro ⟨record, fields⟩
      exact ⟨_, record, fields.imp fun q member item => (nested q member).2⟩

theorem Example.spelled_iff {e : Example} {v : Value} :
    e.Spelled v ↔
      ∃ name? data? hidden?, Record.example.given? v = some [name?, data?, hidden?] ∧
        name? = some (.string e.name) ∧ Holds id .null data? e.data ∧
        Holds .boolean false hidden? e.hidden := by
  constructor
  · rintro ⟨record, data, hidden⟩
    exact ⟨_, _, _, record, rfl, data, hidden⟩
  · rintro ⟨_, _, _, record, rfl, data, hidden⟩
    exact .intro record data hidden

theorem Record.example_given?_object_iff {members : Members} {given : List (Option Value)} :
    Record.example.given? (.object members) = some given ↔
      ∃ name? data? hidden?, given = [name?, data?, hidden?] ∧
        onlyItem? (valuesOf "name" members) = some name? ∧
        onlyItem? (valuesOf "data" members) = some data? ∧
        onlyItem? (valuesOf "hidden" members) = some hidden? := by
  simp only [Record.given?, Record.fields, List.mapM_cons, List.mapM_nil, Option.bind_eq_bind,
    Option.bind_eq_some_iff, Option.pure_def, Option.some.injEq]
  constructor
  · rintro ⟨name?, name, _, ⟨data?, data, _, ⟨hidden?, hidden, _, rfl, rfl⟩, rfl⟩, rfl⟩
    exact ⟨_, _, _, rfl, name, data, hidden⟩
  · rintro ⟨name?, data?, hidden?, rfl, name, data, hidden⟩
    exact ⟨_, name, _, ⟨_, data, _, ⟨_, hidden, _, rfl, rfl⟩, rfl⟩, rfl⟩

def ExampleDraft.ofGiven (name? data? hidden? : Option Value) : Except Mismatch ExampleDraft := do
  return { name := ← name?.mapM textOfJson, data := data?, hidden := ← hidden?.mapM flagOfJson }

theorem ExampleDraft.ofGiven_eq_ok_iff {draft : ExampleDraft} {name? data? hidden? : Option Value} :
    ofGiven name? data? hidden? = .ok draft ↔
      name?.mapM textOfJson = .ok draft.name ∧ data? = draft.data ∧
      hidden?.mapM flagOfJson = .ok draft.hidden := by
  simp only [ofGiven, Except.bind_eq_ok_iff, pure, Except.pure, Except.ok.injEq]
  constructor
  · rintro ⟨name, rn, hidden, rh, rfl⟩
    exact ⟨rn, rfl, rh⟩
  · rintro ⟨rn, rfl, rh⟩
    exact ⟨_, rn, _, rh, rfl⟩

theorem ExampleDraft.finish_complete (name : String) (data : Option Value) (hidden : Option Bool) :
    finish { name := some name, data, hidden } =
      pure { name, data := data.getD .null, hidden := hidden.getD false } := rfl

theorem ExampleDraft.finish_unnamed (data : Option Value) (hidden : Option Bool) (e : Example) :
    finish { name := none, data, hidden } ≠ .ok e := by
  simp [finish, given]

theorem ExampleDraft.finish_eq_ok_iff {draft : ExampleDraft} {e : Example} :
    draft.finish = .ok e ↔
      given "name" draft.name = .ok e.name ∧ draft.data.getD .null = e.data ∧
      draft.hidden.getD false = e.hidden := by
  obtain ⟨_, _, _⟩ := e
  simp [finish, Except.bind_eq_ok_iff, pure, Except.pure]

theorem Example.given_iff_draft {e : Example} {name? data? hidden? : Option Value} :
    (name? = some (.string e.name) ∧ Holds id .null data? e.data ∧
      Holds .boolean false hidden? e.hidden) ↔
      ∃ draft, ExampleDraft.ofGiven name? data? hidden? = .ok draft ∧ draft.finish = .ok e := by
  have held : Holds id .null data? e.data ↔ data?.getD .null = e.data := by
    cases data? <;> simp [Holds, eq_comm]
  simp only [ExampleDraft.ofGiven_eq_ok_iff, ExampleDraft.finish_eq_ok_iff, held,
    ← given_mapM_iff "name" fun _ _ => textOfJson_eq_ok_iff,
    ← holds_iff fun _ _ => flagOfJson_eq_ok_iff]
  constructor
  · rintro ⟨⟨name, rn, hasName⟩, isData, hidden, rh, isHidden⟩
    exact ⟨⟨name, data?, hidden⟩, ⟨rn, rfl, rh⟩, hasName, isData, isHidden⟩
  · rintro ⟨draft, ⟨rn, rfl, rh⟩, hasName, isData, isHidden⟩
    exact ⟨⟨_, rn, hasName⟩, isData, _, rh, isHidden⟩

theorem Example.ofJson_object_iff {e : Example} {members : Members} :
    Example.ofJson (.object members) = .ok e ↔ e.Spelled (.object members) := by
  have kept (given : Option Value) : given.mapM (.ok : Value → Except Mismatch Value) =
      .ok given := by
    cases given <;> rfl
  simp only [Example.ofJson, Except.bind_eq_ok_iff, exampleMembers_eq_ok_iff_collected,
    collected_none_iff, kept, Except.ok.injEq, spelled_iff, given_iff_draft,
    Record.example_given?_object_iff, ExampleDraft.ofGiven_eq_ok_iff]
  constructor
  · rintro ⟨draft, ⟨⟨_, name, rn⟩, ⟨_, data, rd⟩, ⟨_, hidden, rh⟩⟩, finished⟩
    exact ⟨_, _, _, ⟨_, _, _, rfl, name, data, hidden⟩, draft, ⟨rn, rd, rh⟩, finished⟩
  · rintro ⟨_, _, _, ⟨_, _, _, ⟨⟩, name, data, hidden⟩, draft, ⟨rn, rd, rh⟩, finished⟩
    exact ⟨draft, ⟨⟨_, name, rn⟩, ⟨_, data, rd⟩, ⟨_, hidden, rh⟩⟩, finished⟩

theorem Example.ofJson_array_iff {e : Example} {items : List Value} :
    Example.ofJson (.array items) = .ok e ↔
      ∃ name? data? hidden?, padded? 3 items = some [name?, data?, hidden?] ∧
        (ExampleDraft.ofGiven name? data? hidden? >>= ExampleDraft.finish) = .ok e := by
  rcases items with _ | ⟨name, _ | ⟨data, _ | ⟨hidden, _ | _⟩⟩⟩
  · simp [Example.ofJson, ExampleDraft.ofGiven, ExampleDraft.finish_unnamed]
  · simp [Example.ofJson, ExampleDraft.ofGiven, ExampleDraft.finish_complete]
  · simp [Example.ofJson, ExampleDraft.ofGiven, ExampleDraft.finish_complete]
  · simp [Example.ofJson, ExampleDraft.ofGiven, ExampleDraft.finish_complete]
  · simp [Example.ofJson, Except.bind_eq_ok_iff]

theorem Example.ofJson_eq_ok_iff {e : Example} {v : Value} :
    Example.ofJson v = .ok e ↔ e.Spelled v := by
  cases v with
  | object members => exact ofJson_object_iff
  | array items =>
    have given : Record.example.given? (.array items) = padded? 3 items := rfl
    simp only [ofJson_array_iff, spelled_iff, given, given_iff_draft, Except.bind_eq_ok_iff]
  | _ => simp [Example.ofJson, Record.given?, spelled_iff]

theorem Spec.spelled_iff {spec : Spec} {v : Value} :
    spec.Spelled v ↔
      ∃ params? examples?, Record.spec.given? v = some [params?, examples?] ∧
        (∃ items, Holds (fun _ => .array items) [] params? spec.params ∧
          List.Forall₂ Parameter.Spelled spec.params items) ∧
        ∃ uses, Holds (fun _ => .array uses) [] examples? spec.examples ∧
          List.Forall₂ Example.Spelled spec.examples uses := by
  constructor
  · rintro ⟨record, params, eachParam, examples, eachExample⟩
    exact ⟨_, _, record, ⟨_, params, eachParam⟩, _, examples, eachExample⟩
  · rintro ⟨_, _, record, ⟨_, params, eachParam⟩, _, examples, eachExample⟩
    exact .intro record params eachParam examples eachExample

theorem parametersOfJson_eq_ok_iff_spelled {v : Value} {params : List Parameter} :
    parametersOfJson v = .ok params ↔
      ∃ items, v = .array items ∧ List.Forall₂ Parameter.Spelled params items := by
  simp only [parametersOfJson_eq_ok_iff, Parameter.ofJson_eq_ok_iff_spelled]

theorem examplesOfJson_eq_ok_iff_spelled {v : Value} {examples : List Example} :
    examplesOfJson v = .ok examples ↔
      ∃ items, v = .array items ∧ List.Forall₂ Example.Spelled examples items := by
  simp only [examplesOfJson_eq_ok_iff, Example.ofJson_eq_ok_iff]

theorem Record.spec_given?_object_iff {members : Members} {given : List (Option Value)} :
    Record.spec.given? (.object members) = some given ↔
      ∃ params? examples?, given = [params?, examples?] ∧
        onlyItem? (valuesOf "params" members) = some params? ∧
        onlyItem? (valuesOf "examples" members) = some examples? := by
  simp only [Record.given?, Record.fields, List.mapM_cons, List.mapM_nil, Option.bind_eq_bind,
    Option.bind_eq_some_iff, Option.pure_def, Option.some.injEq]
  constructor
  · rintro ⟨params?, params, _, ⟨examples?, examples, _, rfl, rfl⟩, rfl⟩
    exact ⟨_, _, rfl, params, examples⟩
  · rintro ⟨params?, examples?, rfl, params, examples⟩
    exact ⟨_, params, _, ⟨_, examples, _, rfl, rfl⟩, rfl⟩

def Spec.ofGiven (params? examples? : Option Value) : Except Mismatch Spec := do
  return { params := (← params?.mapM parametersOfJson).getD []
           examples := (← examples?.mapM examplesOfJson).getD [] }

theorem Spec.ofGiven_eq_ok_iff {spec : Spec} {params? examples? : Option Value} :
    ofGiven params? examples? = .ok spec ↔
      (∃ params, params?.mapM parametersOfJson = .ok params ∧ params.getD [] = spec.params) ∧
      ∃ examples, examples?.mapM examplesOfJson = .ok examples ∧
        examples.getD [] = spec.examples := by
  obtain ⟨_, _⟩ := spec
  simp only [ofGiven, Except.bind_eq_ok_iff, pure, Except.pure, Except.ok.injEq, Spec.mk.injEq]
  constructor
  · rintro ⟨params, rp, examples, re, isParams, isExamples⟩
    exact ⟨⟨params, rp, isParams⟩, examples, re, isExamples⟩
  · rintro ⟨⟨params, rp, isParams⟩, examples, re, isExamples⟩
    exact ⟨params, rp, examples, re, isParams, isExamples⟩

theorem Spec.spelled_iff_ofGiven {spec : Spec} {v : Value} :
    spec.Spelled v ↔
      ∃ params? examples?, Record.spec.given? v = some [params?, examples?] ∧
        ofGiven params? examples? = .ok spec := by
  have params (supplied : Option Value) :
      (∃ entry, supplied.mapM parametersOfJson = .ok entry ∧ entry.getD [] = spec.params) ↔
        ∃ items, Holds (fun _ => .array items) [] supplied spec.params ∧
          List.Forall₂ Parameter.Spelled spec.params items :=
    holds_items_iff rfl fun _ _ => parametersOfJson_eq_ok_iff_spelled
  have examples (supplied : Option Value) :
      (∃ entry, supplied.mapM examplesOfJson = .ok entry ∧ entry.getD [] = spec.examples) ↔
        ∃ uses, Holds (fun _ => .array uses) [] supplied spec.examples ∧
          List.Forall₂ Example.Spelled spec.examples uses :=
    holds_items_iff rfl fun _ _ => examplesOfJson_eq_ok_iff_spelled
  simp only [spelled_iff, ofGiven_eq_ok_iff, params, examples]

theorem Spec.ofJson_object_iff {spec : Spec} {members : Members} :
    Spec.ofJson (.object members) = .ok spec ↔ spec.Spelled (.object members) := by
  obtain ⟨params, examples⟩ := spec
  simp only [Spec.ofJson, Except.bind_eq_ok_iff, specMembers_eq_ok_iff_collected,
    collected_none_iff, spelled_iff_ofGiven, ofGiven_eq_ok_iff, Record.spec_given?_object_iff, pure,
    Except.pure, Except.ok.injEq, Spec.mk.injEq]
  constructor
  · rintro ⟨draft, ⟨⟨_, params, rp⟩, ⟨_, examples, re⟩⟩, isParams, isExamples⟩
    exact ⟨_, _, ⟨_, _, rfl, params, examples⟩, ⟨_, rp, isParams⟩, _, re, isExamples⟩
  · rintro ⟨_, _, ⟨_, _, ⟨⟩, params, examples⟩, ⟨params', rp, isParams⟩, examples', re, isExamples⟩
    exact ⟨⟨params', examples'⟩, ⟨⟨_, params, rp⟩, ⟨_, examples, re⟩⟩, isParams, isExamples⟩

theorem Spec.ofJson_array_iff {spec : Spec} {items : List Value} :
    Spec.ofJson (.array items) = .ok spec ↔
      ∃ params? examples?, padded? 2 items = some [params?, examples?] ∧
        ofGiven params? examples? = .ok spec := by
  have empty : ofGiven none none = .ok {} := rfl
  rcases items with _ | ⟨params, _ | ⟨examples, _ | _⟩⟩
  · simp [Spec.ofJson, empty]
  · simp [Spec.ofJson, ofGiven]
  · simp [Spec.ofJson, ofGiven]
  · simp [Spec.ofJson, Except.bind_eq_ok_iff]

theorem Spec.ofJson_eq_ok_iff {spec : Spec} {v : Value} :
    Spec.ofJson v = .ok spec ↔ spec.Spelled v := by
  cases v with
  | object members => exact ofJson_object_iff
  | array items =>
    have given : Record.spec.given? (.array items) = padded? 2 items := rfl
    rw [ofJson_array_iff, spelled_iff_ofGiven, given]
  | _ => simp [Spec.ofJson, Record.given?, spelled_iff]

end ComponentSchema
