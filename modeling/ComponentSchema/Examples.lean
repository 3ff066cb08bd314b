import ComponentSchema.Checking
import ComponentSchema.Compilation

/-!
The examples of a spec, held against the validator of the same spec.

An example is a set of parameters that a component is known to render, so one that fails shows a
wrong spec or a missing override.
-/

set_option autoImplicit false

namespace ComponentSchema

structure ExampleFailure where
  name : String
  issues : List Issue
  deriving DecidableEq

/-- How many examples were tried, how many passed, and those that failed, in the order of the
spec. -/
structure ExampleReport where
  total : Nat
  passed : Nat
  failures : List ExampleFailure
  deriving DecidableEq

def Spec.examplesToTry (spec : Spec) (includeHidden : Bool) : List Example :=
  spec.examples.filter fun e => includeHidden || !e.hidden

def Example.body (e : Example) : Json.Value :=
  .object [(paramsKey, e.data)]

namespace Validator

def exampleEvent (v : Validator) (name : String) : Log.Event :=
  { level := .debug
    origin := .examples
    message := "example rejected"
    fields := [("component", .quoted v.component), ("example", .shown name)] }

def tryExample (v : Validator) (e : Example) : Logged (Option ExampleFailure) := do
  match ← v.validate e.body with
  | .ok _ => return none
  | .error issues =>
    Logged.emit (v.exampleEvent e.name)
    return some ⟨e.name, issues⟩

def tryExamples (v : Validator) (examples : List Example) : Logged ExampleReport := do
  let outcomes ← examples.mapM v.tryExample
  return {
    total := outcomes.length
    passed := outcomes.countP Option.isNone
    failures := outcomes.filterMap id }

end Validator

def Spec.tryExamples (spec : Spec) (component : String) (includeHidden : Bool) :
    Logged ExampleReport := do
  let validator ← ({ component } : Compiler).compileLogged spec
  validator.tryExamples (spec.examplesToTry includeHidden)

end ComponentSchema
