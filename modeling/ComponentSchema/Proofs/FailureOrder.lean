import ComponentSchema.Application
import ComponentSchema.Proofs.ExampleReports

/-! The failures of commands. A command fails exactly if one of its stages has a fault, with the
fault of the first such stage, and has then written nothing. -/

set_option autoImplicit false

namespace ComponentSchema

/-! ### Results -/

section

variable {α β : Type}

theorem value_run_bind (x : ExceptT Failure Logged α) (f : α → ExceptT Failure Logged β) :
    (x >>= f).run.value = x.run.value.bind fun a => (f a).run.value := by
  rw [ExceptT.run_bind, Logged.value_bind]
  cases x.run.value <;> rfl

theorem value_run_pure (a : α) : (pure a : ExceptT Failure Logged α).run.value = .ok a := rfl

theorem value_run_lift (x : Logged α) :
    (liftM x : ExceptT Failure Logged α).run.value = .ok x.value := rfl

theorem value_run_orFail {ε : Type} (failure : ε → Failure) (outcome : Except ε α) :
    (orFail failure outcome : ExceptT Failure Logged α).run.value = outcome.mapError failure := rfl

theorem exists_ok {ε : Type} {x : Except ε α} (sound : ∀ error, x ≠ .error error) :
    ∃ a, x = .ok a := by
  cases x with
  | error error => exact absurd rfl (sound error)
  | ok a => exact ⟨a, rfl⟩

end

/-! ### Faults -/

inductive Stage where
  | layout
  | component
  | version
  | reading
  | decoding
  | body
  deriving DecidableEq

def Stage.rank : Stage → Nat
  | .layout => 0
  | .component => 1
  | .version => 2
  | .reading => 3
  | .decoding => 4
  | .body => 5

/-- Where the request body of a command is: in a file, or in the input, which a hyphen also stands
for. -/
inductive Command.BodyIn : Command → Option Path → Prop where
  | file {request : SpecRequest} {path : Path} {asJson : Bool}
      (other : path.isSame inputPath = false) :
      BodyIn (.check request (some path) asJson) (some path)
  | hyphen {request : SpecRequest} {path : Path} {asJson : Bool}
      (same : path.isSame inputPath = true) :
      BodyIn (.check request (some path) asJson) none
  | input {request : SpecRequest} {asJson : Bool} : BodyIn (.check request none asJson) none

theorem Command.exists_bodyIn (request : SpecRequest) (body? : Option Path) (asJson : Bool) :
    ∃ place, (Command.check request body? asJson).BodyIn place := by
  cases body? with
  | none => exact ⟨none, .input⟩
  | some path =>
    cases same : path.isSame inputPath with
    | false => exact ⟨some path, .file same⟩
    | true => exact ⟨none, .hyphen same⟩

/-- What a command is given besides its arguments. -/
structure Setting where
  variableValue? : String → Option String
  file : Path → Except ReadFault ByteArray
  input : Except ReadFault ByteArray

namespace Setting

variable (e : Setting)

def surroundings : Surroundings Logged :=
  .given e.variableValue? e.file e.input

def textIn : Option Path → Except ReadFault String
  | some path => e.file path >>= textOfBytes
  | none => e.input >>= textOfBytes

/-- The file of the spec that is asked for: the one that is named, or else that of the version and
component below the root of the request or the configured one. -/
inductive SpecAt (request : SpecRequest) : Path → Prop where
  | named {path : Path} (named : request.path? = some path) : SpecAt request path
  | found {layout : Layout} {text : String} {version : FrontendVersion} {component : ComponentName}
      (unnamed : request.path? = none)
      (configured : Layout.ofVariables e.variableValue? = .ok layout)
      (valid : ComponentName.ofString request.component = .ok component)
      (given : request.version? = some text)
      (valid' : FrontendVersion.ofString text = .ok version) :
      SpecAt request ((layout.withRoot (request.root?.getD layout.root)).specPath version component)

def unreadableBody : Option Path → ReadFault → Failure
  | some path, fault => .unreadableBody path fault
  | none, fault => .unreadableInput fault

/-- What is wrong at a stage of a command, whether or not the command gets that far. -/
inductive FaultAt (command : Command) : Stage → Failure → Prop where
  | layout {error : LayoutError} (invalid : Layout.ofVariables e.variableValue? = .error error) :
      FaultAt command .layout (.layout error)
  | component {error : InvalidIdentifier}
      (invalid : ComponentName.ofString command.request.component = .error error) :
      FaultAt command .component (.identifier error)
  | noVersion (unnamed : command.request.path? = none) (absent : command.request.version? = none) :
      FaultAt command .version .noVersion
  | version {text : String} {error : InvalidIdentifier} (unnamed : command.request.path? = none)
      (given : command.request.version? = some text)
      (invalid : FrontendVersion.ofString text = .error error) :
      FaultAt command .version (.identifier error)
  | unreadableSpec {path : Path} {fault : ReadFault} (there : e.SpecAt command.request path)
      (unreadable : e.textIn (some path) = .error fault) :
      FaultAt command .reading (.unreadableSpec path fault)
  | invalidSpec {path : Path} {text : String} {error : DecodeError}
      (there : e.SpecAt command.request path)
      (read : e.textIn (some path) = .ok text) (invalid : Spec.ofFile path text = .error error) :
      FaultAt command .decoding (.invalidSpec path error)
  | unreadableBody {place : Option Path} {fault : ReadFault} (there : command.BodyIn place)
      (unreadable : e.textIn place = .error fault) :
      FaultAt command .body (unreadableBody place fault)
  | invalidBody {place : Option Path} {text : String} {error : Json.Error}
      (there : command.BodyIn place)
      (read : e.textIn place = .ok text) (invalid : Json.parse text = .error error) :
      FaultAt command .body (.invalidBody error)

def Clear (command : Command) (stage : Stage) : Prop :=
  ∀ failure, ¬e.FaultAt command stage failure

/-- A fault with no fault at an earlier stage. -/
structure FirstFault (command : Command) (stage : Stage) (failure : Failure) : Prop where
  fault : e.FaultAt command stage failure
  earlier : ∀ other, other.rank < stage.rank → e.Clear command other

variable {e}

theorem SpecAt.unique {request : SpecRequest} {path other : Path} (there : e.SpecAt request path)
    (there' : e.SpecAt request other) : path = other := by
  cases there with
  | named named =>
    cases there' with
    | named named' => exact Option.some.inj (named.symm.trans named')
    | found unnamed => cases named.symm.trans unnamed
  | found unnamed configured valid given valid' =>
    cases there' with
    | named named => cases named.symm.trans unnamed
    | found _ configured' component given' version =>
      cases configured.symm.trans configured'
      cases valid.symm.trans component
      cases given.symm.trans given'
      cases valid'.symm.trans version
      rfl

/-! ### Stages without a fault -/

variable {command : Command}

theorem Clear.exists_layout (clear : e.Clear command .layout) :
    ∃ layout, Layout.ofVariables e.variableValue? = .ok layout :=
  exists_ok fun _ invalid => clear _ (.layout invalid)

theorem Clear.exists_component (clear : e.Clear command .component) :
    ∃ component, ComponentName.ofString command.request.component = .ok component :=
  exists_ok fun _ invalid => clear _ (.component invalid)

theorem Clear.exists_version (clear : e.Clear command .version)
    (unnamed : command.request.path? = none) :
    ∃ text version, command.request.version? = some text ∧
      FrontendVersion.ofString text = .ok version := by
  cases given : command.request.version? with
  | none => exact absurd (.noVersion unnamed given) (clear _)
  | some text =>
    obtain ⟨version, valid⟩ := exists_ok fun _ invalid => clear _ (.version unnamed given invalid)
    exact ⟨text, version, rfl, valid⟩

theorem Clear.exists_text (clear : e.Clear command .reading) {path : Path}
    (there : e.SpecAt command.request path) : ∃ text, e.textIn (some path) = .ok text :=
  exists_ok fun _ unreadable => clear _ (.unreadableSpec there unreadable)

theorem Clear.exists_spec (clear : e.Clear command .decoding) {path : Path} {text : String}
    (there : e.SpecAt command.request path) (read : e.textIn (some path) = .ok text) :
    ∃ spec, Spec.ofFile path text = .ok spec :=
  exists_ok fun _ invalid => clear _ (.invalidSpec there read invalid)

/-! ### Loading -/

theorem value_load (request : SpecRequest) :
    (e.surroundings.load request).run.value =
      ((Layout.ofVariables e.variableValue?).mapError .layout).bind fun layout =>
      (request.resolve layout).bind fun found =>
      (((e.textIn (some found.2)).mapError (.unreadableSpec found.2)).bind fun text =>
        (Spec.ofFile found.2 text).mapError (.invalidSpec found.2)).bind fun spec =>
      .ok ⟨found.1, found.2, spec⟩ := by
  have layout : e.surroundings.layout.value = Layout.ofVariables e.variableValue? := rfl
  have unchanged (x : Except Failure (ComponentName × Path)) : x.mapError id = x := by
    cases x <;> rfl
  simp only [Surroundings.load, Surroundings.loadWith, Surroundings.readSpec, value_run_bind,
    value_run_orFail, value_run_pure, value_run_lift, layout, unchanged]
  rfl

theorem exists_path (clear : ∀ stage, stage.rank < Stage.reading.rank → e.Clear command stage) :
    ∃ layout name path, Layout.ofVariables e.variableValue? = .ok layout ∧
      command.request.resolve layout = .ok (name, path) ∧ e.SpecAt command.request path := by
  obtain ⟨layout, configured⟩ := (clear .layout (by decide)).exists_layout
  obtain ⟨name, valid⟩ := (clear .component (by decide)).exists_component
  cases named : command.request.path? with
  | some path =>
    refine ⟨layout, name, path, configured, ?_, .named named⟩
    rw [SpecRequest.resolve, valid, named]
    rfl
  | none =>
    obtain ⟨text, version, given, valid'⟩ := (clear .version (by decide)).exists_version named
    have root : command.request.root?.elim layout layout.withRoot =
        layout.withRoot (command.request.root?.getD layout.root) := by
      cases command.request.root? <;> rfl
    refine ⟨layout, name, _, configured, ?_, .found named configured valid given valid'⟩
    rw [SpecRequest.resolve, valid, named, given, ← root]
    simp only [Except.mapError, bind, Except.bind, valid']
    rfl

theorem exists_loaded (clear : ∀ stage, stage.rank < Stage.body.rank → e.Clear command stage) :
    ∃ loaded, (e.surroundings.load command.request).run.value = .ok loaded := by
  obtain ⟨layout, name, path, configured, resolved, there⟩ :=
    exists_path fun stage before => clear stage (Nat.lt_trans before (by decide))
  obtain ⟨text, read⟩ := (clear .reading (by decide)).exists_text there
  obtain ⟨spec, decoded⟩ := (clear .decoding (by decide)).exists_spec there read
  refine ⟨⟨name, path, spec⟩, ?_⟩
  simp only [value_load, configured, resolved, read, decoded, Except.mapError, Except.bind]

theorem FirstFault.value_load {stage : Stage} {failure : Failure}
    (first : e.FirstFault command stage failure) (loading : stage ≠ .body) :
    (e.surroundings.load command.request).run.value = .error failure := by
  obtain ⟨fault, earlier⟩ := first
  rw [Setting.value_load]
  cases fault with
  | layout invalid =>
    rw [invalid]
    rfl
  | component invalid =>
    obtain ⟨layout, configured⟩ := (earlier .layout (by decide)).exists_layout
    rw [configured]
    simp only [Except.mapError, Except.bind, SpecRequest.resolve, invalid, bind]
  | noVersion unnamed absent =>
    obtain ⟨layout, configured⟩ := (earlier .layout (by decide)).exists_layout
    obtain ⟨name, valid⟩ := (earlier .component (by decide)).exists_component
    rw [configured]
    simp only [Except.mapError, Except.bind, SpecRequest.resolve, valid, unnamed, absent, bind]
  | version unnamed given invalid =>
    obtain ⟨layout, configured⟩ := (earlier .layout (by decide)).exists_layout
    obtain ⟨name, valid⟩ := (earlier .component (by decide)).exists_component
    rw [configured]
    simp only [Except.mapError, Except.bind, SpecRequest.resolve, valid, unnamed, given, invalid,
      bind]
  | unreadableSpec there unreadable =>
    obtain ⟨layout, name, path, configured, resolved, there'⟩ := exists_path earlier
    obtain rfl := there.unique there'
    simp only [configured, resolved, unreadable, Except.mapError, Except.bind]
  | invalidSpec there read invalid =>
    obtain ⟨layout, name, path, configured, resolved, there'⟩ :=
      exists_path fun stage before => earlier stage (Nat.lt_trans before (by decide))
    obtain rfl := there.unique there'
    simp only [configured, resolved, read, invalid, Except.mapError, Except.bind]
  | unreadableBody => exact absurd rfl loading
  | invalidBody => exact absurd rfl loading

/-! ### Running -/

def goOn (e : Setting) (command : Command) (loaded : LoadedSpec) : Except Failure Outcome :=
  match command with
  | .check _ body? asJson => (e.surroundings.readBody body?).run.value.map fun body =>
    (checkBody loaded.component.text loaded.spec body asJson).value
  | .schema _ => .ok (showSchema loaded.component.text loaded.spec).value
  | .normalize _ => .ok (showNormalized loaded.spec).value
  | .examples _ includeHidden => .ok (showExamples loaded includeHidden).value

theorem value_run (command : Command) :
    (command.run e.surroundings).run.value =
      (e.surroundings.load command.request).run.value.bind (e.goOn command) := by
  rw [Command.run, value_run_bind]
  congr 1
  funext loaded
  cases command with
  | check request body? asJson =>
    rw [value_run_bind, goOn]
    cases (e.surroundings.readBody body?).run.value <;> rfl
  | _ => rfl

theorem value_readBody {request : SpecRequest} {body? : Option Path} {asJson : Bool}
    {place : Option Path} (there : (Command.check request body? asJson).BodyIn place) :
    (e.surroundings.readBody body?).run.value =
      ((e.textIn place).mapError (unreadableBody place)).bind fun text =>
        (Json.parse text).mapError .invalidBody := by
  rw [Surroundings.readBody, value_run_bind]
  congr 1
  cases there with
  | file other =>
    rw [Surroundings.readBodyText, Option.filter]
    simp only [other]
    rfl
  | hyphen same =>
    rw [Surroundings.readBodyText, Option.filter]
    simp only [same]
    rfl
  | input => rfl

theorem FaultAt.value_readBody {request : SpecRequest} {body? : Option Path} {asJson : Bool}
    {failure : Failure} (fault : e.FaultAt (.check request body? asJson) .body failure) :
    (e.surroundings.readBody body?).run.value = .error failure := by
  cases fault with
  | unreadableBody there unreadable =>
    rw [Setting.value_readBody there, unreadable]
    rfl
  | invalidBody there read invalid =>
    rw [Setting.value_readBody there, read]
    simp only [Except.mapError, Except.bind, invalid]

theorem Clear.exists_body {request : SpecRequest} {body? : Option Path} {asJson : Bool}
    (clear : e.Clear (.check request body? asJson) .body) :
    ∃ body, (e.surroundings.readBody body?).run.value = .ok body := by
  obtain ⟨place, there⟩ := Command.exists_bodyIn request body? asJson
  obtain ⟨text, read⟩ := exists_ok fun _ unreadable => clear _ (.unreadableBody there unreadable)
  obtain ⟨body, parsed⟩ := exists_ok fun _ invalid => clear _ (.invalidBody there read invalid)
  refine ⟨body, ?_⟩
  rw [Setting.value_readBody there, read]
  simp only [Except.mapError, Except.bind, parsed]

theorem FaultAt.exists_check {failure : Failure} (fault : e.FaultAt command .body failure) :
    ∃ request body? asJson, command = .check request body? asJson := by
  cases command with
  | check request body? asJson => exact ⟨request, body?, asJson, rfl⟩
  | _ => cases fault with
    | unreadableBody there => cases there
    | invalidBody there => cases there

theorem FirstFault.value_run {stage : Stage} {failure : Failure}
    (first : e.FirstFault command stage failure) :
    (command.run e.surroundings).run.value = .error failure := by
  rw [Setting.value_run]
  by_cases loading : stage = .body
  · subst loading
    obtain ⟨fault, earlier⟩ := first
    obtain ⟨loaded, load⟩ := exists_loaded earlier
    obtain ⟨request, body?, asJson, rfl⟩ := fault.exists_check
    rw [load, Except.bind, goOn, fault.value_readBody]
    rfl
  · rw [first.value_load loading]
    rfl

theorem exists_outcome (clear : ∀ stage, e.Clear command stage) :
    ∃ outcome, (command.run e.surroundings).run.value = .ok outcome := by
  obtain ⟨loaded, load⟩ := exists_loaded fun stage _ => clear stage
  rw [Setting.value_run, load]
  cases command with
  | check request body? asJson =>
    obtain ⟨body, readBody⟩ := (clear .body).exists_body
    rw [Except.bind, goOn, readBody]
    exact ⟨_, rfl⟩
  | _ => exact ⟨_, rfl⟩

/-- Where something is wrong, something is wrong first. -/
theorem FaultAt.exists_first {stage : Stage} {failure : Failure}
    (fault : e.FaultAt command stage failure) :
    ∃ stage failure, e.FirstFault command stage failure := by
  by_cases clear : ∀ other, other.rank < stage.rank → e.Clear command other
  · exact ⟨stage, failure, fault, clear⟩
  · simp only [Clear, not_forall, not_not] at clear
    obtain ⟨other, before, failure', fault'⟩ := clear
    exact fault'.exists_first
termination_by stage.rank

theorem run_eq_error_iff {failure : Failure} :
    (command.run e.surroundings).run.value = .error failure ↔
      ∃ stage, e.FirstFault command stage failure := by
  constructor
  · intro failed
    -- The first fault there is would itself be the failure, so it is this one.
    by_cases clear : ∀ stage, e.Clear command stage
    · obtain ⟨outcome, worked⟩ := exists_outcome clear
      cases worked.symm.trans failed
    · simp only [Clear, not_forall, not_not] at clear
      obtain ⟨_, _, fault⟩ := clear
      obtain ⟨stage, failure', first⟩ := fault.exists_first
      cases first.value_run.symm.trans failed
      exact ⟨stage, first⟩
  · rintro ⟨stage, first⟩
    exact first.value_run

theorem exitCode_of_run {outcome : Outcome}
    (worked : (command.run e.surroundings).run.value = .ok outcome) :
    outcome.exitCode = 0 ∨
      outcome.exitCode = 1 ∧
        ∀ request, command ≠ .schema request ∧ command ≠ .normalize request := by
  rw [Setting.value_run] at worked
  cases load : (e.surroundings.load command.request).run.value with
  | error failure =>
    rw [load] at worked
    cases worked
  | ok loaded =>
    rw [load, Except.bind] at worked
    have verdict : outcome.exitCode = 0 ∨ outcome.exitCode = 1 := by
      unfold Outcome.exitCode
      split <;> simp
    cases command with
    | schema =>
      cases worked
      exact .inl rfl
    | normalize =>
      cases worked
      exact .inl rfl
    | _ => exact verdict.imp_right fun failed => ⟨failed, fun _ => ⟨nofun, nofun⟩⟩

def reported (wording : Wording) : Except Failure Outcome → Logged Application.Report
  | .ok outcome => pure { exitCode := outcome.exitCode, output := outcome.output }
  | .error failure => do
    Logged.emit (Application.failureEvent (failure.message wording))
    return { exitCode := 2 }

theorem runCommand_eq (wording : Wording) :
    Application.runCommand e.surroundings wording command =
      Logged.emit Application.startEvent >>= fun _ =>
        (command.run e.surroundings).run >>= reported wording :=
  rfl

theorem value_runCommand {wording : Wording} {result : Except Failure Outcome}
    (same : (command.run e.surroundings).run.value = result) :
    (Application.runCommand e.surroundings wording command).value =
      (reported wording result).value := by
  rw [runCommand_eq, Logged.value_bind, Logged.value_bind, same]

theorem getLast?_events_runCommand {wording : Wording} {failure : Failure}
    (failed : (command.run e.surroundings).run.value = .error failure) :
    (Application.runCommand e.surroundings wording command).events.getLast? =
      some (Application.failureEvent (failure.message wording)) := by
  rw [runCommand_eq, Logged.events_bind, Logged.events_bind, failed, reported]
  simp only [Logged.events_bind, Logged.events_emit, Logged.events_pure, List.append_nil]
  rw [← List.append_assoc, List.getLast?_concat]

/-- A command fails exactly with the first fault of its stages: the layout of the variables, also
where a file is named; the component; without a named file the version; the reading and the decoding
of the spec; and, for a check, the request body. It has then written nothing and logs the failure
last. Otherwise it ends in zero or one, and always in zero where it only shows something. -/
theorem failures_in_order (e : Setting) (command : Command) (wording : Wording) :
    let result := (command.run e.surroundings).run.value
    let run := Application.runCommand e.surroundings wording command
    (∀ failure, result = .error failure ↔ ∃ stage, e.FirstFault command stage failure) ∧
    ((∃ failure, result = .error failure) ↔ ∃ stage failure, e.FaultAt command stage failure) ∧
    match result with
    | .error failure => run.value = { exitCode := 2, output := "" } ∧
      run.events.getLast? = some (Application.failureEvent (failure.message wording))
    | .ok outcome => run.value = { exitCode := outcome.exitCode, output := outcome.output } ∧
      (outcome.exitCode = 0 ∨
        outcome.exitCode = 1 ∧
          ∀ request, command ≠ .schema request ∧ command ≠ .normalize request) := by
  intro result run
  refine ⟨fun failure => run_eq_error_iff, ?_, ?_⟩
  · constructor
    · rintro ⟨failure, failed⟩
      obtain ⟨stage, first⟩ := run_eq_error_iff.1 failed
      exact ⟨stage, failure, first.fault⟩
    · rintro ⟨stage, failure, fault⟩
      obtain ⟨stage, failure, first⟩ := fault.exists_first
      exact ⟨failure, first.value_run⟩
  · cases same : result with
    | error failure => exact ⟨value_runCommand same, getLast?_events_runCommand same⟩
    | ok outcome => exact ⟨value_runCommand same, exitCode_of_run same⟩

/-- A setting without files and input, in which the root directory is set to nothing. -/
def emptyRoot : Setting where
  variableValue? name := if name = Layout.rootVariable then some "" else none
  file _ := .error .notFound
  input := .error .notText

theorem failures_in_order_emptyRoot :
    let command := Command.check { component := "table", path? := some ⟨"table.yaml"⟩ } none false
    emptyRoot.FaultAt command .reading (.unreadableSpec ⟨"table.yaml"⟩ .notFound) ∧
    emptyRoot.FaultAt command .body (.unreadableInput .notText) ∧
    (command.run emptyRoot.surroundings).run.value =
      .error (.layout (.emptySetting Layout.rootVariable)) := by
  intro command
  have layout : emptyRoot.FaultAt command .layout (.layout (.emptySetting Layout.rootVariable)) :=
    .layout rfl
  have first : emptyRoot.FirstFault command .layout _ := ⟨layout, fun _ before => nomatch before⟩
  refine ⟨.unreadableSpec (.named rfl) rfl, .unreadableBody .input rfl, ?_⟩
  exact ((failures_in_order emptyRoot command .located).1 _).2 ⟨.layout, first⟩

end Setting

end ComponentSchema
