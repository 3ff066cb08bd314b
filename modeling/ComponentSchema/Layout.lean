import ComponentSchema.Identifier
import ComponentSchema.Path

/-!
Where the specs of components are found.

A root directory holds one checkout for each frontend version, and each checkout holds a components
directory with one directory for each component.
-/

set_option autoImplicit false

namespace ComponentSchema

inductive LayoutError where
  | emptySetting (variableName : String)
  | escapingComponents (variableName value : String)
  deriving DecidableEq

def LayoutError.message : LayoutError → String
  | .emptySetting variableName => variableName ++ " is set but empty"
  | .escapingComponents variableName value =>
    variableName ++ " must be a relative path inside the checkout, got '" ++ value ++ "'"

/-- The root directory, and the components directory relative to a checkout. -/
structure Layout where
  root : Path
  components : Path := ⟨"src/govuk/components"⟩
  deriving DecidableEq

namespace Layout

def rootVariable : String := "GOVUK_FRONTEND_ROOT"

def componentsVariable : String := "GOVUK_COMPONENTS_PATH"

/-- The root directory from its setting; the current directory without one. -/
def rootOf : (setting? : Option String) → Except LayoutError Path
  | none => .ok ⟨"."⟩
  | some value => if value.isEmpty then .error (.emptySetting rootVariable) else .ok ⟨value⟩

/-- The components directory from its setting. It may not lead out of the checkout. -/
def componentsOf (root : Path) : (setting? : Option String) → Except LayoutError Layout
  | none => .ok { root }
  | some value =>
    if value.isEmpty then .error (.emptySetting componentsVariable)
    else if Path.staysInside ⟨value⟩ then .ok { root, components := ⟨value⟩ }
    else .error (.escapingComponents componentsVariable value)

def ofSettings (root? components? : Option String) : Except LayoutError Layout := do
  componentsOf (← rootOf root?) components?

def ofVariables (variableValue? : String → Option String) : Except LayoutError Layout :=
  ofSettings (variableValue? rootVariable) (variableValue? componentsVariable)

def withRoot (layout : Layout) (root : Path) : Layout :=
  { layout with root }

def specPath (layout : Layout) (version : FrontendVersion) (component : ComponentName) : Path :=
  layout.root
    |>.join version.text
    |>.join layout.components.text
    |>.join component.text
    |>.join (component.text ++ ".yaml")

end Layout

end ComponentSchema
