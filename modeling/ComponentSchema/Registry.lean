import ComponentSchema.Compilation
import ComponentSchema.Identifier

/-!
Compiled validators by component and version.

A registry compiles a spec when its validator is first asked for. The spec comes from a loader,
which may use the registry itself. The first validator stored for a key stays until the registry is
cleared, and everybody who asks for the key is given that one.
-/

set_option autoImplicit false

namespace ComponentSchema

namespace Registry

structure Key where
  component : ComponentName
  version : FrontendVersion
  deriving DecidableEq

/-- A stored validator. The serial number tells apart validators that were compiled separately. -/
structure Shared where
  serial : Nat
  validator : Validator

structure LoadError where
  key : Key
  reason : String

def LoadError.message (e : LoadError) : String :=
  "cannot load spec for component '" ++ e.key.component.text ++ "' at version '" ++
    e.key.version.text ++ "': " ++ e.reason

end Registry

/-- The stored validators, the latest in front, and the number of validators compiled so far. -/
structure Registry where
  overrides : OverrideTable := .standard
  entries : List (Registry.Key × Registry.Shared) := []
  compiled : Nat := 0

namespace Registry

def find? (r : Registry) (key : Key) : Option Shared :=
  r.entries.lookup key

def size (r : Registry) : Nat :=
  r.entries.length

def isEmpty (r : Registry) : Bool :=
  r.entries.isEmpty

def clear (r : Registry) : Registry :=
  { r with entries := [] }

/-- Store a newly compiled validator, unless there is one for the key. The stored one is
returned. -/
def insertIfAbsent (key : Key) (validator : Validator) (r : Registry) : Shared × Registry :=
  let shared : Shared := ⟨r.compiled, validator⟩
  let r := { r with compiled := r.compiled + 1 }
  match r.find? key with
  | some stored => (stored, r)
  | none => (shared, { r with entries := (key, shared) :: r.entries })

def compiler (r : Registry) (key : Key) : Compiler :=
  { overrides := r.overrides, component := key.component.text }

/-! ### Events -/

def keyFields (key : Key) : List (String × Log.Content) :=
  [("component", .shown key.component.text), ("version", .shown key.version.text)]

def hitEvent (key : Key) : Log.Event :=
  { level := .trace
    origin := .registry
    message := "validator cache hit"
    fields := keyFields key }

def compiledEvent (key : Key) (validator : Validator) : Log.Event :=
  { level := .debug
    origin := .registry
    message := "compiled component validator"
    fields := keyFields key ++ [("fields", .count validator.params.fields.length)] }

/-! ### Asking for a validator -/

section

variable {m : Type → Type} [Monad m] [MonadLiftT Logged m]

/-- The stored validator of a key; if there is none, load its spec, compile and store it. The loader
runs between the look-up and the storing, and may change the registry. -/
def getOrCompile (key : Key) (load : StateT Registry m (Except String Spec)) :
    StateT Registry m (Except LoadError Shared) := do
  match (← get).find? key with
  | some stored =>
    liftM (Logged.emit (hitEvent key))
    return .ok stored
  | none =>
    match ← load with
    | .error reason => return .error ⟨key, reason⟩
    | .ok spec =>
      let validator ← liftM (((← get).compiler key).compileLogged spec)
      liftM (Logged.emit (compiledEvent key validator))
      -- The load may have stored a validator for the key, and then that one counts.
      return .ok (← modifyGet (insertIfAbsent key validator))

end

theorem find?_insertIfAbsent_self (key : Key) (validator : Validator) (r : Registry) :
    (r.insertIfAbsent key validator).2.find? key = some (r.insertIfAbsent key validator).1 := by
  unfold insertIfAbsent
  simp only
  split
  · assumption
  · simp [find?]

theorem find?_insertIfAbsent_of_ne {key other : Key} (different : other ≠ key)
    (validator : Validator) (r : Registry) :
    (r.insertIfAbsent key validator).2.find? other = r.find? other := by
  unfold insertIfAbsent
  simp only
  split
  · rfl
  · simp [find?, List.lookup_cons, beq_eq_false_iff_ne.2 different]

@[simp] theorem find?_clear (r : Registry) (key : Key) : r.clear.find? key = none := rfl

end Registry

end ComponentSchema
