import ComponentSchema.Issue
import ComponentSchema.Log
import ComponentSchema.Validator

/-!
Checking request bodies.

A check walks the tree of a validator and the value side by side, with the path to where it stands
and the issues found so far. It does not stop at a fault, and it changes no value: a body that
passes gives back its own parameters.
-/

set_option autoImplicit false

namespace ComponentSchema

def LeafKind.accepts : LeafKind → Json.Value → Bool
  | .boolean, .boolean _ => true
  | .string, .string _ => true
  | .block, .string _ => true
  | .integer, .number n => n.isSafeInteger
  | .any, _ => true
  | _, _ => false

/-- Where a check stands, and what it has found. -/
structure Walk where
  path : Location := []
  issues : Array Issue := #[]

namespace Walk

def enter (w : Walk) (segment : Segment) : Walk :=
  { w with path := w.path ++ [segment] }

def leave (w : Walk) : Walk :=
  { w with path := w.path.dropLast }

def report (w : Walk) (issue : Location → Issue) : Walk :=
  { w with issues := w.issues.push (issue w.path) }

/-- Report the members of a closed object that no field declares. -/
def unrecognized (declared : List String) : Json.Members → Walk → Walk
  | [], w => w
  | (key, _) :: rest, w =>
    if declared.contains key then unrecognized declared rest w
    else unrecognized declared rest ((w.enter (.key key)).report Issue.unrecognized).leave

def elements (check : Json.Value → Walk → Walk) : (index : Nat) → List Json.Value → Walk → Walk
  | _, [], w => w
  | index, item :: rest, w =>
    elements check (index + 1) rest (check item (w.enter (.index index))).leave

mutual

def node : Node → Json.Value → Walk → Walk
  | .leaf kind, value, w =>
    if kind.accepts value then w else w.report fun path => .mismatch path kind.expected value
  | .object declared allowUnknown, .object members, w =>
    let w := fields declared members w
    if allowUnknown then w else unrecognized (declared.map (·.name)) members w
  | .array none, .array _, w => w
  | .array (some element), .array items, w => elements (node element) 0 items w
  | .object .., value, w => w.report fun path => .mismatch path "object" value
  | .array _, value, w => w.report fun path => .mismatch path "array" value

def fields : List (Field Node) → Json.Members → Walk → Walk
  | [], _, w => w
  | ⟨name, required, check⟩ :: rest, members, w =>
    let w := w.enter (.key name)
    let w :=
      match members.lookup name with
      | some value => node check value w
      | none => if required then w.report fun path => .missing path check.expected else w
    fields rest members w.leave

end

end Walk

def paramsKey : String := "params"

def paramsOf : Json.Value → Except Issue Json.Members
  | .object members =>
    match members.lookup paramsKey with
    | some (.object params) => .ok params
    | some other => .error (.mismatch [.key paramsKey] "object" other)
    | none => .error (.missing [.key paramsKey] "object")
  | body => .error (.mismatch [] "object" body)

namespace Validator

/-- All issues of a request body, in the order of declaration. -/
def check (v : Validator) (body : Json.Value) : List Issue :=
  match paramsOf body with
  | .ok params =>
    let w := Walk.fields v.params.fields params { path := [.key paramsKey] }
    let w :=
      if v.params.allowUnknown then w
      else Walk.unrecognized (v.params.fields.map (·.name)) params w
    w.issues.toList
  | .error issue => [issue]

def accepted (v : Validator) (body : Json.Value) : Except (List Issue) Json.Members :=
  match v.check body, paramsOf body with
  | [], .ok params => .ok params
  | issues, _ => .error issues

def refusal (v : Validator) (issues : List Issue) : Log.Event :=
  { level := .debug
    origin := .validation
    message := "request body rejected"
    fields := [("component", .shown v.component), ("issues", .count issues.length)] }

def validate (v : Validator) (body : Json.Value) : Logged (Except (List Issue) Json.Members) := do
  match v.accepted body with
  | .ok params => return .ok params
  | .error issues =>
    Logged.emit (v.refusal issues)
    return .error issues

end Validator

end ComponentSchema
