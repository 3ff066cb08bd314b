import ComponentSchema.Json.Value
import ComponentSchema.Text.Lowercase

/-!
Corrections to what specs declare.

Specs are not fully consistent with the templates they describe. A field whose name ends in one of
the optional suffixes, in capital or small letters, is never required. A field override changes the
shape of one field of one component, at any depth.
-/

set_option autoImplicit false

namespace ComponentSchema

inductive FieldTransform where
  /-- The nested parameters describe the cells of an array of rows. -/
  | arrayOfRows
  deriving DecidableEq

def FieldTransform.name : FieldTransform → String
  | .arrayOfRows => "array_of_rows"

structure FieldOverride where
  component : String
  field : String
  transform : FieldTransform
  reason : String
  deriving DecidableEq

/-- Optional suffixes, in small letters, and field overrides, the later ones taking precedence. -/
structure OverrideTable where
  optionalSuffixes : List String := []
  fieldOverrides : List FieldOverride := []
  lowercase : ∀ suffix ∈ optionalSuffixes, Text.lowercased suffix = suffix := by simp
  deriving DecidableEq

namespace OverrideTable

def empty : OverrideTable := {}

def standard : OverrideTable :=
  { optionalSuffixes := ["text", "html"]
    fieldOverrides := [{
      component := "table"
      field := "rows"
      transform := .arrayOfRows
      reason := "rows is an array of rows, each an array of cells; " ++
        "the spec declares the cell params directly under rows" }]
    lowercase := by decide }

def addSuffix (t : OverrideTable) (suffix : String) : OverrideTable :=
  { t with
    optionalSuffixes := t.optionalSuffixes ++ [Text.lowercased suffix]
    lowercase := by
      intro s member
      rcases List.mem_append.1 member with old | new
      · exact t.lowercase s old
      · rw [List.mem_singleton.1 new, Text.lowercased_lowercased] }

def addOverride (t : OverrideTable) (row : FieldOverride) : OverrideTable :=
  { t with fieldOverrides := t.fieldOverrides ++ [row] }

def forcesOptional (t : OverrideTable) (field : String) : Bool :=
  t.optionalSuffixes.any fun suffix => suffix.toList.isSuffixOf (Text.lowercased field).toList

/-- The transform of a field of a component: that of the last row for both. -/
def transform? (t : OverrideTable) (component field : String) : Option FieldTransform :=
  (t.fieldOverrides.reverse.find? fun row => row.component = component && row.field = field).map
    (·.transform)

def FieldOverride.toJson (row : FieldOverride) : Json.Value :=
  .object [("component", .string row.component), ("field", .string row.field),
    ("transform", .string row.transform.name), ("reason", .string row.reason)]

def toJson (t : OverrideTable) : Json.Value :=
  .object [("optional_suffixes", .strings t.optionalSuffixes),
    ("field_overrides", .array (t.fieldOverrides.map FieldOverride.toJson))]

end OverrideTable

end ComponentSchema
