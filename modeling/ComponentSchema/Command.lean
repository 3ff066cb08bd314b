import ComponentSchema.Examples
import ComponentSchema.Json.Reading
import ComponentSchema.Json.Writing
import ComponentSchema.Loading
import ComponentSchema.Spec.Encoding
import ComponentSchema.Yaml.Writing

/-!
The commands: each loads the spec of a component and writes what it finds.

A command that fails has written nothing. One that works ends with a verdict, and its output is a
function of the spec and the request body alone.
-/

set_option autoImplicit false

namespace ComponentSchema

inductive Command where
  | check (request : SpecRequest) (body? : Option Path) (asJson : Bool)
  | schema (request : SpecRequest)
  | normalize (request : SpecRequest)
  | examples (request : SpecRequest) (includeHidden : Bool)

def Command.request : Command → SpecRequest
  | .check request _ _ => request
  | .schema request => request
  | .normalize request => request
  | .examples request _ => request

/-- What a command that worked has written, and whether everything passed. -/
structure Outcome where
  passed : Bool := true
  output : String
  deriving DecidableEq

def Outcome.exitCode (outcome : Outcome) : Nat :=
  if outcome.passed then 0 else 1

/-! ### What the commands write -/

namespace Outcome

def ofAccepted (component : String) (asJson : Bool) (params : Json.Members) : Outcome :=
  { output :=
      (if asJson then
        (Json.Value.object [("params", .object params), ("valid", .boolean true)]).pretty
      else "OK: " ++ component) ++ "\n" }

def ofRefused (component : String) (asJson : Bool) (issues : List Issue) : Outcome :=
  { passed := false
    output :=
      (if asJson then
        (Json.Value.object
          [("issues", .array (issues.map Issue.toJson)), ("valid", .boolean false)]).pretty
      else
        "FAIL: " ++ component ++ " (" ++ toString issues.length ++ " issue(s))\n" ++
          Issue.report issues) ++ "\n" }

def failureLines (failure : ExampleFailure) : List String :=
  ("  FAIL: " ++ failure.name) :: failure.issues.map fun issue => "  " ++ issue.text

def ofReport (path : Path) (report : ExampleReport) : Outcome :=
  let summary := "Examples: " ++ toString report.passed ++ "/" ++ toString report.total ++
    " passed (" ++ path.text ++ ")"
  { passed := report.failures.isEmpty
    output := String.join
      ((summary :: report.failures.flatMap failureLines).map fun line => line ++ "\n") }

end Outcome

def refusedBodyEvent (component : String) (issues : List Issue) : Log.Event :=
  { level := .info
    origin := .check
    message := "request body rejected"
    fields := [("component", .quoted component), ("issues", .count issues.length)] }

def checkBody (component : String) (spec : Spec) (body : Json.Value) (asJson : Bool) :
    Logged Outcome := do
  let validator ← ({ component } : Compiler).compileLogged spec
  match ← validator.validate body with
  | .ok params => return .ofAccepted component asJson params
  | .error issues =>
    Logged.emit (refusedBodyEvent component issues)
    return .ofRefused component asJson issues

def showSchema (component : String) (spec : Spec) : Logged Outcome := do
  let validator ← ({ component } : Compiler).compileLogged spec
  return { output := validator.toJson.pretty ++ "\n" }

/-- Show the normalized parameters, without the examples, in the form of a spec. -/
def showNormalized (spec : Spec) : Logged Outcome := do
  let params ← normalizeLogged spec.params
  return { output := ({ params } : Spec).toJson.yaml }

def showExamples (loaded : LoadedSpec) (includeHidden : Bool) : Logged Outcome := do
  return .ofReport loaded.path (← loaded.spec.tryExamples loaded.component.text includeHidden)

/-! ### Running -/

def inputPath : Path := ⟨"-"⟩

namespace Surroundings

variable {m : Type → Type} [Monad m] (s : Surroundings m)

/-- The text of a request body: a file, or the input where none is named. -/
def readBodyText (body? : Option Path) : ExceptT Failure m String := do
  match body?.filter fun path => !path.isSame inputPath with
  | some path => orFail (.unreadableBody path) (← s.readText path)
  | none => orFail .unreadableInput (← s.readInputText)

def readBody (body? : Option Path) : ExceptT Failure m Json.Value := do
  let text ← s.readBodyText body?
  orFail .invalidBody (Json.parse text)

end Surroundings

namespace Command

variable {m : Type → Type} [Monad m] [MonadLiftT Logged m]

def run (s : Surroundings m) (command : Command) : ExceptT Failure m Outcome := do
  let loaded ← s.load command.request
  let component := loaded.component.text
  match command with
  | .check _ body? asJson =>
    let body ← s.readBody body?
    checkBody component loaded.spec body asJson
  | .schema _ => showSchema component loaded.spec
  | .normalize _ => showNormalized loaded.spec
  | .examples _ includeHidden => showExamples loaded includeHidden

end Command

end ComponentSchema
