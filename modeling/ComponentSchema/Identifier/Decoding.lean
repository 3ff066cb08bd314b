import ComponentSchema.Identifier
import ComponentSchema.Spec.Decoding

/-! Identifiers from JSON values: strings, each with a text that is checked like any other. -/

set_option autoImplicit false

namespace ComponentSchema

/-- Why a JSON value is no identifier: it is no string, or its text is refused. -/
inductive IdentifierError where
  | noText (mismatch : Mismatch)
  | invalid (error : InvalidIdentifier)

def IdentifierError.message : IdentifierError → String
  | .noText mismatch => mismatch.message
  | .invalid error => error.message

def identifierOfJson {Identifier : Type} (ofText : String → Except InvalidIdentifier Identifier)
    (v : Json.Value) : Except IdentifierError Identifier := do
  let text ← (textOfJson v).mapError .noText
  (ofText text).mapError .invalid

def ComponentName.ofJson : Json.Value → Except IdentifierError ComponentName :=
  identifierOfJson ofString

def FrontendVersion.ofJson : Json.Value → Except IdentifierError FrontendVersion :=
  identifierOfJson ofString

end ComponentSchema
