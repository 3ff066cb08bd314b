import ComponentSchema.Arguments
import ComponentSchema.Log.Filter
import ComponentSchema.Log.Writing

/-!
The program as a whole: from a command line to an exit code, an output and events.
-/

set_option autoImplicit false

namespace ComponentSchema

namespace Application

def name : String := "govuk-components"

def version : String := "0.1.0"

def startEvent : Log.Event :=
  { level := .debug
    origin := .application
    message := name ++ " starting"
    fields := [("version", .quoted version)] }

def failureEvent (message : String) : Log.Event :=
  { level := .error, origin := .application, message }

def usage : String := "\n".intercalate [
  "Check request bodies against the parameter specs of components.",
  "",
  "Usage: " ++ name ++ " [OPTIONS] <COMMAND>",
  "",
  "Commands:",
  "  check      Validate a JSON request body against a component",
  "  schema     Print the compiled validator tree as JSON",
  "  normalize  Print the parameter list after dotted-name grouping",
  "  examples   Validate the examples embedded in a component spec",
  "  help       Print this message",
  "",
  "Options of every command:",
  "  -c, --component <COMPONENT>       Component name",
  "      --frontend-version <VERSION>  Frontend version directory under the root",
  "      --spec <PATH>                 Read the spec from this file",
  "      --root <DIR>                  Directory holding frontend checkouts",
  "  -v, --verbose...                  Log more",
  "      --log-json                    Log JSON lines",
  "  -h, --help                        Print help",
  "",
  "Options of check:",
  "      --json  Print the result as JSON",
  "  [BODY]      Request body to validate, from the input when omitted or a hyphen",
  "",
  "Options of examples:",
  "      --include-hidden  Also validate hidden examples",
  ""]

/-- What is left of a run besides its events. A complaint is shown to the user, but is not
logged. -/
structure Report where
  exitCode : Nat
  output : String := ""
  complaint? : Option String := none
  deriving DecidableEq

variable {m : Type → Type} [Monad m] [MonadLiftT Logged m]

def runCommand (s : Surroundings m) (wording : Wording) (command : Command) : m Report := do
  Logged.emit startEvent
  match ← (command.run s).run with
  | .ok outcome => return { exitCode := outcome.exitCode, output := outcome.output }
  | .error failure =>
    Logged.emit (failureEvent (failure.message wording))
    return { exitCode := 2 }

def run (s : Surroundings m) (wording : Wording) : Invocation → m Report
  | .help => return { exitCode := 0, output := usage }
  | .version => return { exitCode := 0, output := name ++ " " ++ version ++ "\n" }
  | .misuse error => return { exitCode := 2, complaint? := some ("error: " ++ error.message) }
  | .run _ command => runCommand s wording command

end Application

def Invocation.logSettings : Invocation → LogSettings
  | .run settings _ => settings
  | _ => {}

namespace LogSettings

/-- The filter of a run. A variable wins over the verbosity. -/
def filter (settings : LogSettings) (setting? : Option String) : Log.Filter :=
  .choose setting? settings.verbosity

def render (settings : LogSettings) (event : Log.Event) : String :=
  if settings.asJson then event.toJson.compact fun _ => false else event.line

end LogSettings

end ComponentSchema
