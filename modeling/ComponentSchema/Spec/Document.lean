import ComponentSchema.Json.Reading
import ComponentSchema.Spec.Decoding
import ComponentSchema.Yaml.Decoding

/-!
Specs from the text of a document.

The reader of the text checks it against the form of a spec and leaves its declared part, which is
then decoded like any other value.
-/

set_option autoImplicit false

namespace ComponentSchema

/-- What a spec is decoded from, and why it cannot be. -/
inductive DecodeError where
  | yaml (error : Yaml.Error)
  | json (error : Json.Error)
  | value (mismatch : Mismatch)

namespace DecodeError

def format : DecodeError → String
  | .yaml _ => "yaml"
  | .json _ => "json"
  | .value _ => "value"

def title (e : DecodeError) : String :=
  "cannot decode " ++ e.format ++ " component spec"

def reason : DecodeError → String
  | .yaml e => e.message
  | .json e => e.message
  | .value m => m.message

def located (e : DecodeError) : String :=
  e.title ++ ": " ++
    match e with
    | .yaml e => e.located
    | .json e => e.located
    | .value m => m.message

end DecodeError

def Spec.ofValue (v : Json.Value) : Except DecodeError Spec :=
  (Spec.ofJson v).mapError .value

def Spec.ofJsonText (text : String) : Except DecodeError Spec := do
  Spec.ofValue (← (Json.readAs (.record .spec) text).mapError .json)

def Spec.ofYaml (text : String) : Except DecodeError Spec := do
  Spec.ofValue (← (Yaml.readAs (.record .spec) text).mapError .yaml)

end ComponentSchema
