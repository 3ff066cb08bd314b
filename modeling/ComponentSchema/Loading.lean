import ComponentSchema.Failure
import ComponentSchema.Text.Lowercase

/-!
Finding and reading the spec of a component.

A request names the file itself, or a frontend version whose checkout holds it.
-/

set_option autoImplicit false

namespace ComponentSchema

structure SpecRequest where
  component : String
  version? : Option String := none
  path? : Option Path := none
  root? : Option Path := none

structure LoadedSpec where
  component : ComponentName
  path : Path
  spec : Spec

/-- The component of a request and the path of its spec. A given path wins over a version, and a
given root over that of the layout. -/
def SpecRequest.resolve (request : SpecRequest) (layout : Layout) :
    Except Failure (ComponentName × Path) := do
  let component ← (ComponentName.ofString request.component).mapError .identifier
  match request.path? with
  | some path => return (component, path)
  | none =>
    let some text := request.version? | .error .noVersion
    let version ← (FrontendVersion.ofString text).mapError .identifier
    let layout := request.root?.elim layout layout.withRoot
    return (component, layout.specPath version component)

/-- Whether the file at a path holds JSON; any other holds YAML. -/
def Path.isJson (path : Path) : Bool :=
  path.extension?.any fun extension => Text.lowercased extension = "json"

def Spec.ofFile (path : Path) (text : String) : Except DecodeError Spec :=
  if path.isJson then Spec.ofJsonText text else Spec.ofYaml text

def loadingEvent (component : ComponentName) (path : Path) : Log.Event :=
  { level := .debug
    origin := .source
    message := "loading component spec"
    fields := [("component", .shown component.text), ("path", .shown path.text)] }

namespace Surroundings

variable {m : Type → Type} [Monad m] (s : Surroundings m)

def layout : m (Except LayoutError Layout) := do
  let root? ← s.variableValue? Layout.rootVariable
  let components? ← s.variableValue? Layout.componentsVariable
  return Layout.ofSettings root? components?

def readSpec (path : Path) : ExceptT Failure m Spec := do
  let text ← orFail (.unreadableSpec path) (← s.readText path)
  orFail (.invalidSpec path) (Spec.ofFile path text)

variable [MonadLiftT Logged m]

def loadWith (layout : Layout) (request : SpecRequest) : ExceptT Failure m LoadedSpec := do
  let (component, path) ← orFail id (request.resolve layout)
  Logged.emit (loadingEvent component path)
  return { component, path, spec := ← s.readSpec path }

def load (request : SpecRequest) : ExceptT Failure m LoadedSpec := do
  let layout ← orFail .layout (← s.layout)
  s.loadWith layout request

end Surroundings

end ComponentSchema
