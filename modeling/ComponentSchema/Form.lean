import ComponentSchema.Json.Value
import ComponentSchema.Text.Quoted

/-!
The shape of a spec document.

A `Form` says what is expected at one place of a document, whatever the document is written in. A
reader follows the form, skips members that no field declares, and reports the first `Mismatch`.
-/

set_option autoImplicit false

namespace ComponentSchema

inductive Record where
  | spec
  | parameter
  | example
  deriving DecidableEq

inductive Form where
  | text
  | flag
  | anything
  | list (element : Form)
  | record (kind : Record)
  deriving DecidableEq

/-- A declared field of a record; a nullable one takes `null` for absent. -/
structure FieldForm where
  name : String
  form : Form
  required : Bool := false
  nullable : Bool := false

namespace Record

def fields : Record → List FieldForm
  | .spec => [{ name := "params", form := .list (.record .parameter) },
              { name := "examples", form := .list (.record .example) }]
  | .parameter => [{ name := "name", form := .text, required := true },
                   { name := "type", form := .text, required := true },
                   { name := "required", form := .flag },
                   { name := "description", form := .text, nullable := true },
                   { name := "params", form := .list (.record .parameter), nullable := true }]
  | .example => [{ name := "name", form := .text, required := true },
                 { name := "data", form := .anything },
                 { name := "hidden", form := .flag }]

def field? (record : Record) (name : String) : Option FieldForm :=
  record.fields.find? (·.name == name)

def firstMissing? (record : Record) (present : List String) : Option String :=
  (record.fields.find? fun field => field.required && !present.contains field.name).map (·.name)

def title : Record → String
  | .spec => "struct ComponentSpec"
  | .parameter => "struct ParameterSpec"
  | .example => "struct ComponentExample"

end Record

/-- What a document holds at a place, as far as messages tell. -/
inductive Found where
  | null
  | blank
  | boolean (b : Bool)
  | integer (digits : String)
  | wide (digits : String)
  | float (digits : String)
  | text (s : String)
  | sequence
  | map
  | tagged

namespace Found

def phrase : Found → String
  | .null => "null"
  | .blank => "unit value"
  | .boolean b => "boolean `" ++ (if b then "true" else "false") ++ "`"
  | .integer digits => "integer `" ++ digits ++ "`"
  | .wide digits => "integer `" ++ digits ++ "` as " ++
      (if digits.startsWith "-" then "i128" else "u128")
  | .float digits => "floating point `" ++ digits ++ "`"
  | .text s => "string " ++ Text.quoted s
  | .sequence => "sequence"
  | .map => "map"
  | .tagged => "enum"

def ofNumber : Json.Number → Found
  | .float x => .float (Json.Number.text (.float x))
  | n => .integer n.text

def ofValue : Json.Value → Found
  | .null => .null
  | .boolean b => .boolean b
  | .number n => .ofNumber n
  | .string s => .text s
  | .array _ => .sequence
  | .object _ => .map

end Found

inductive Wanted where
  | text
  | flag
  | sequence
  | anything
  | record (kind : Record)
  | fieldName
  | textKey
  | integer
  | float
  | null

namespace Wanted

def phrase : Wanted → String
  | .text => "a string"
  | .flag => "a boolean"
  | .sequence => "a sequence"
  | .anything => "any valid JSON value"
  | .record kind => kind.title
  | .fieldName => "field identifier"
  | .textKey => "a string key"
  | .integer => "an integer"
  | .float => "a float"
  | .null => "null"

end Wanted

def Form.wanted : Form → Wanted
  | .text => .text
  | .flag => .flag
  | .anything => .anything
  | .list _ => .sequence
  | .record kind => .record kind

inductive Mismatch where
  | wrongType (found : Found) (wanted : Wanted)
  | wrongText (text : String) (wanted : Wanted)
  | missing (field : String)
  | repeated (field : String)
  | tooShort (length : Nat) (kind : Record)
  | tooLong (length : Nat)

namespace Mismatch

def message : Mismatch → String
  | .wrongType found wanted => "invalid type: " ++ found.phrase ++ ", expected " ++ wanted.phrase
  | .wrongText text wanted =>
    "invalid value: string " ++ Text.quoted text ++ ", expected " ++ wanted.phrase
  | .missing field => "missing field `" ++ field ++ "`"
  | .repeated field => "duplicate field `" ++ field ++ "`"
  | .tooShort length kind =>
    "invalid length " ++ toString length ++ ", expected " ++ kind.title ++ " with " ++
      toString kind.fields.length ++ " elements"
  | .tooLong length =>
    "invalid length " ++ toString length ++ ", expected fewer elements in array"

end Mismatch

end ComponentSchema
