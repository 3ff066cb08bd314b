import ComponentSchema.Form
import ComponentSchema.Spec

/-!
Specs from JSON values.

A record is an object of its fields or an array of them in declaration order. Undeclared members are
ignored, and the first mismatch in the order of the value is reported.
-/

set_option autoImplicit false

namespace ComponentSchema

def textOfJson : Json.Value → Except Mismatch String
  | .string s => .ok s
  | v => .error (.wrongType (.ofValue v) .text)

def flagOfJson : Json.Value → Except Mismatch Bool
  | .boolean b => .ok b
  | v => .error (.wrongType (.ofValue v) .flag)

def optionalTextOfJson : Json.Value → Except Mismatch (Option String)
  | .null => .ok none
  | v => some <$> textOfJson v

/-- Keep the value of a field that is given for the first time. -/
def once {α : Type} (field : String) (earlier : Option α) (value : Except Mismatch α) :
    Except Mismatch (Option α) :=
  match earlier with
  | some _ => .error (.repeated field)
  | none => some <$> value

def given {α : Type} (field : String) : Option α → Except Mismatch α
  | some value => .ok value
  | none => .error (.missing field)

structure ParameterDraft where
  name : Option String := none
  type : Option String := none
  required : Option Bool := none
  description : Option (Option String) := none
  params : Option (Option (List Parameter)) := none

/-- The parameter of a complete draft, defaults filled in. -/
def ParameterDraft.finish (draft : ParameterDraft) : Except Mismatch Parameter := do
  let name ← given "name" draft.name
  let type ← given "type" draft.type
  return { name
           type := .ofTag type
           required := draft.required.getD false
           description := draft.description.getD none
           params := draft.params.getD none }

mutual

def Parameter.ofJson : Json.Value → Except Mismatch Parameter
  | .object members => do (← parameterMembers {} members).finish
  | .array items => parameterOfItems items
  | v => .error (.wrongType (.ofValue v) (.record .parameter))

def parameterMembers (draft : ParameterDraft) :
    List (String × Json.Value) → Except Mismatch ParameterDraft
  | [] => .ok draft
  | (key, value) :: rest => do
    let draft ←
      if key = "name" then
        pure { draft with name := ← once "name" draft.name (textOfJson value) }
      else if key = "type" then
        pure { draft with type := ← once "type" draft.type (textOfJson value) }
      else if key = "required" then
        pure { draft with required := ← once "required" draft.required (flagOfJson value) }
      else if key = "description" then
        pure { draft with
          description := ← once "description" draft.description (optionalTextOfJson value) }
      else if key = "params" then
        pure { draft with params := ← once "params" draft.params (nestedOfJson value) }
      else pure draft
    parameterMembers draft rest

/-- The fields in declaration order, trailing ones with a default left out at will. -/
def parameterOfItems : List Json.Value → Except Mismatch Parameter
  | [] => .error (.tooShort 0 .parameter)
  | [name] => do
    let _ ← textOfJson name
    .error (.tooShort 1 .parameter)
  | name :: type :: rest => do
    let p : Parameter := { name := ← textOfJson name, type := .ofTag (← textOfJson type) }
    match rest with
    | [] => return p
    | required :: rest =>
      let p := { p with required := ← flagOfJson required }
      match rest with
      | [] => return p
      | description :: rest =>
        let p := { p with description := ← optionalTextOfJson description }
        match rest with
        | [] => return p
        | params :: rest =>
          let p := { p with params := ← nestedOfJson params }
          if rest.isEmpty then return p else .error (.tooLong (5 + rest.length))

def nestedOfJson : Json.Value → Except Mismatch (Option (List Parameter))
  | .null => .ok none
  | .array items => some <$> parametersOfItems items
  | v => .error (.wrongType (.ofValue v) .sequence)

def parametersOfItems : List Json.Value → Except Mismatch (List Parameter)
  | [] => .ok []
  | item :: rest => do
    let p ← Parameter.ofJson item
    return p :: (← parametersOfItems rest)

end

structure ExampleDraft where
  name : Option String := none
  data : Option Json.Value := none
  hidden : Option Bool := none

def exampleMembers (draft : ExampleDraft) : Json.Members → Except Mismatch ExampleDraft
  | [] => .ok draft
  | (key, value) :: rest => do
    let draft ←
      if key = "name" then
        pure { draft with name := ← once "name" draft.name (textOfJson value) }
      else if key = "data" then
        pure { draft with data := ← once "data" draft.data (.ok value) }
      else if key = "hidden" then
        pure { draft with hidden := ← once "hidden" draft.hidden (flagOfJson value) }
      else pure draft
    exampleMembers draft rest

def ExampleDraft.finish (draft : ExampleDraft) : Except Mismatch Example := do
  let name ← given "name" draft.name
  return { name, data := draft.data.getD .null, hidden := draft.hidden.getD false }

def Example.ofJson : Json.Value → Except Mismatch Example
  | .object members => do (← exampleMembers {} members).finish
  | .array [] => .error (.tooShort 0 .example)
  | .array [name] => return { name := ← textOfJson name }
  | .array [name, data] => return { name := ← textOfJson name, data }
  | .array (name :: data :: hidden :: rest) => do
    let e : Example := { name := ← textOfJson name, data, hidden := ← flagOfJson hidden }
    if rest.isEmpty then return e else .error (.tooLong (3 + rest.length))
  | v => .error (.wrongType (.ofValue v) (.record .example))

def parametersOfJson : Json.Value → Except Mismatch (List Parameter)
  | .array items => parametersOfItems items
  | v => .error (.wrongType (.ofValue v) .sequence)

def examplesOfJson : Json.Value → Except Mismatch (List Example)
  | .array items => items.mapM Example.ofJson
  | v => .error (.wrongType (.ofValue v) .sequence)

structure SpecDraft where
  params : Option (List Parameter) := none
  examples : Option (List Example) := none

def specMembers (draft : SpecDraft) : Json.Members → Except Mismatch SpecDraft
  | [] => .ok draft
  | (key, value) :: rest => do
    let draft ←
      if key = "params" then
        pure { draft with params := ← once "params" draft.params (parametersOfJson value) }
      else if key = "examples" then
        pure { draft with examples := ← once "examples" draft.examples (examplesOfJson value) }
      else pure draft
    specMembers draft rest

def Spec.ofJson : Json.Value → Except Mismatch Spec
  | .object members => do
    let draft ← specMembers {} members
    return { params := draft.params.getD [], examples := draft.examples.getD [] }
  | .array [] => .ok {}
  | .array [params] => return { params := ← parametersOfJson params }
  | .array (params :: examples :: rest) => do
    let spec : Spec :=
      { params := ← parametersOfJson params, examples := ← examplesOfJson examples }
    if rest.isEmpty then return spec else .error (.tooLong (2 + rest.length))
  | v => .error (.wrongType (.ofValue v) (.record .spec))

end ComponentSchema
