import ComponentSchema.Command

/-!
Command lines.

A command line names a command and gives its options. Options of the program itself may stand before
or after the name. The first fault of a command line is the one that counts, unless help or the
version is asked for before it.
-/

set_option autoImplicit false

namespace ComponentSchema

inductive UsageError where
  | noCommand
  | unknownCommand (name : String)
  | unknownOption (name : String)
  | unexpectedArgument (text : String)
  | unexpectedValue (option : String)
  | missingValue (option : String)
  | emptyValue (option : String)
  | repeated (option : String)
  | missingOption (option : String)
  deriving DecidableEq

def UsageError.message : UsageError → String
  | .noCommand => "a command is required"
  | .unknownCommand name => "unrecognized command '" ++ name ++ "'"
  | .unknownOption name => "unexpected option '" ++ name ++ "'"
  | .unexpectedArgument text => "unexpected argument '" ++ text ++ "'"
  | .unexpectedValue option => "no value is allowed for '" ++ option ++ "'"
  | .missingValue option => "a value is required for '" ++ option ++ "'"
  | .emptyValue option => "a value is required for '" ++ option ++ "' but it is empty"
  | .repeated option => "'" ++ option ++ "' cannot be used more than once"
  | .missingOption option => "'" ++ option ++ "' is required"

structure LogSettings where
  verbosity : Nat := 0
  asJson : Bool := false
  deriving DecidableEq

inductive Invocation where
  | help
  | version
  | misuse (error : UsageError)
  | run (settings : LogSettings) (command : Command)

namespace Arguments

inductive CommandName where
  | check
  | schema
  | normalize
  | examples
  deriving DecidableEq

def CommandName.ofText? : String → Option CommandName
  | "check" => some .check
  | "schema" => some .schema
  | "normalize" => some .normalize
  | "examples" => some .examples
  | _ => none

inductive Setting where
  | component
  | version
  | spec
  | root
  deriving DecidableEq

def Setting.name : Setting → String
  | .component => "--component"
  | .version => "--frontend-version"
  | .spec => "--spec"
  | .root => "--root"

inductive Switch where
  | help
  | version
  | verbose
  | logJson
  | json
  | includeHidden
  deriving DecidableEq

def Switch.name : Switch → String
  | .help => "--help"
  | .version => "--version"
  | .verbose => "--verbose"
  | .logJson => "--log-json"
  | .json => "--json"
  | .includeHidden => "--include-hidden"

def programSwitches : List Switch := [.verbose, .logJson, .help, .version]

def CommandName.switches : CommandName → List Switch
  | .check => [.verbose, .logJson, .help, .json]
  | .examples => [.verbose, .logJson, .help, .includeHidden]
  | _ => [.verbose, .logJson, .help]

def CommandName.settings (_ : CommandName) : List Setting :=
  [.component, .version, .spec, .root]

def Switch.letter? : Switch → Option Char
  | .help => some 'h'
  | .version => some 'V'
  | .verbose => some 'v'
  | _ => none

def Setting.letter? : Setting → Option Char
  | .component => some 'c'
  | _ => none

structure Given where
  verbosity : Nat := 0
  logJson : Bool := false
  json : Bool := false
  includeHidden : Bool := false
  component? : Option String := none
  version? : Option String := none
  spec? : Option String := none
  root? : Option String := none
  body? : Option String := none

structure Known where
  switches : List Switch
  settings : List Setting := []
  takesBody : Bool := false

def CommandName.known (name : CommandName) : Known :=
  { switches := name.switches, settings := name.settings, takesBody := name = .check }

/-- Reading ends early with an invocation that is not a run. -/
abbrev Reading := Except Invocation

def fail {α : Type} (error : UsageError) : Reading α :=
  .error (.misuse error)

def Given.turnOn (given : Given) (switch : Switch) : Reading Given :=
  let once (isOn : Bool) (on : Given) : Reading Given :=
    if isOn then fail (.repeated switch.name) else .ok on
  match switch with
  | .help => .error .help
  | .version => .error .version
  | .verbose => .ok { given with verbosity := given.verbosity + 1 }
  | .logJson => once given.logJson { given with logJson := true }
  | .json => once given.json { given with json := true }
  | .includeHidden => once given.includeHidden { given with includeHidden := true }

/-- Give an option its value. A path may not be empty. -/
def Given.set (given : Given) (setting : Setting) (value : String) : Reading Given :=
  let once (earlier? : Option String) (set : Given) : Reading Given :=
    if earlier?.isSome then fail (.repeated setting.name) else .ok set
  let path (earlier? : Option String) (set : Given) : Reading Given :=
    if value.isEmpty then fail (.emptyValue setting.name) else once earlier? set
  match setting with
  | .component => once given.component? { given with component? := some value }
  | .version => once given.version? { given with version? := some value }
  | .spec => path given.spec? { given with spec? := some value }
  | .root => path given.root? { given with root? := some value }

def Given.take (given : Given) (known : Known) (text : String) : Reading Given :=
  if !known.takesBody || given.body?.isSome then fail (.unexpectedArgument text)
  else if text.isEmpty then fail (.emptyValue "BODY")
  else .ok { given with body? := some text }

/-- Whether an argument is an option, or several of one letter. A single hyphen is not. -/
def isOption (text : String) : Bool :=
  match text.toList with
  | '-' :: _ :: _ => true
  | _ => false

inductive Pending where
  | nothing
  | value (setting : Setting)

def readLong (known : Known) (given : Given) (text : List Char) : Reading (Given × Pending) :=
  let name := "--" ++ String.ofList (text.takeWhile (· ≠ '='))
  let value? : Option String :=
    match text.dropWhile (· ≠ '=') with
    | [] => none
    | _ :: value => some (String.ofList value)
  match known.switches.find? (·.name = name), known.settings.find? (·.name = name), value? with
  | some switch, _, none => return (← given.turnOn switch, .nothing)
  | some switch, _, some _ => fail (.unexpectedValue switch.name)
  | none, some setting, some value => return (← given.set setting value, .nothing)
  | none, some setting, none => .ok (given, .value setting)
  | none, none, _ => fail (.unknownOption name)

/-- Read options of one letter. One with a value takes the rest, without an equals sign in front. -/
def readLetters (known : Known) (given : Given) : List Char → Reading (Given × Pending)
  | [] => .ok (given, .nothing)
  | letter :: rest =>
    match known.switches.find? (·.letter? = some letter),
      known.settings.find? (·.letter? = some letter) with
    | some switch, _ => do readLetters known (← given.turnOn switch) rest
    | none, some setting =>
      match rest with
      | [] => .ok (given, .value setting)
      | '=' :: value => do return (← given.set setting (String.ofList value), .nothing)
      | value => do return (← given.set setting (String.ofList value), .nothing)
    | none, none => fail (.unknownOption (String.ofList ['-', letter]))

def readOption (known : Known) (given : Given) (text : String) : Reading (Given × Pending) :=
  match text.toList with
  | '-' :: '-' :: name => readLong known given name
  | letters => readLetters known given letters.tail

/-- Read the arguments of a command. After two hyphens no argument is an option. -/
def readArguments (known : Known) (given : Given) : List String → Reading Given
  | [] => .ok given
  | "--" :: rest => rest.foldlM (fun given text => given.take known text) given
  | text :: rest =>
    if isOption text then do
      match ← readOption known given text with
      | (given, .nothing) => readArguments known given rest
      | (given, .value setting) =>
        match rest with
        | value :: rest =>
          -- A value that looks like an option is taken for a forgotten value.
          if isOption value then fail (.missingValue setting.name)
          else readArguments known (← given.set setting value) rest
        | [] => fail (.missingValue setting.name)
    else do readArguments known (← given.take known text) rest

def Given.command (given : Given) (name : CommandName) : Reading Command := do
  let some component := given.component? | fail (.missingOption Setting.component.name)
  if given.version?.isNone && given.spec?.isNone then fail (.missingOption Setting.version.name)
  let request : SpecRequest :=
    { component
      version? := given.version?
      path? := given.spec?.map Path.mk
      root? := given.root?.map Path.mk }
  match name with
  | .check => return .check request (given.body?.map Path.mk) given.json
  | .schema => return .schema request
  | .normalize => return .normalize request
  | .examples => return .examples request given.includeHidden

/-- How to log: as asked for behind the command, or else in front of it. -/
def settings (before after : Given) : LogSettings :=
  { verbosity := if after.verbosity = 0 then before.verbosity else after.verbosity
    asJson := before.logJson || after.logJson }

def readHelp : List String → Invocation
  | [] => .help
  | [name] => if name = "help" ∨ (CommandName.ofText? name).isSome then .help
    else .misuse (.unknownCommand name)
  | name :: further :: _ =>
    if name = "help" ∨ (CommandName.ofText? name).isSome then .misuse (.unknownCommand further)
    else .misuse (.unknownCommand name)

def readProgram (before : Given) : List String → Reading Invocation
  | [] => fail .noCommand
  | text :: rest =>
    if text = "--" then fail (rest.head?.elim .noCommand .unexpectedArgument)
    else if isOption text then do
      -- No option of the program itself has a value, so nothing is left to find.
      let (before, _) ← readOption { switches := programSwitches } before text
      readProgram before rest
    else if text = "help" then .ok (readHelp rest)
    else
      match CommandName.ofText? text with
      | some name => do
        let given ← readArguments name.known {} rest
        return .run (settings before given) (← given.command name)
      | none => fail (.unknownCommand text)

def read (arguments : List String) : Invocation :=
  match readProgram {} arguments with
  | .ok invocation => invocation
  | .error invocation => invocation

end Arguments

end ComponentSchema
