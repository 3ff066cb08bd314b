import ComponentSchema.Json.Value

/-!
Reports of what is wrong with a request body: where, what kind of fault, and a message.
-/

set_option autoImplicit false

namespace ComponentSchema

inductive Segment where
  | key (name : String)
  | index (i : Nat)
  deriving DecidableEq

abbrev Location := List Segment

inductive IssueKind where
  | mismatch (expected received : String)
  | missing
  | unrecognized
  deriving DecidableEq

structure Issue where
  path : Location
  kind : IssueKind
  message : String
  deriving DecidableEq

namespace Issue

/-- A value that is not of the expected type. Where an integer is expected, a number is quoted. -/
def mismatch (path : Location) (expected : String) (value : Json.Value) : Issue :=
  { path
    kind := .mismatch expected value.typeName
    message :=
      match value with
      | .number n =>
        if expected = "integer" then
          "Expected integer, received " ++ n.text ++ ", which is not a safe whole number"
        else "Expected " ++ expected ++ ", received number"
      | value => "Expected " ++ expected ++ ", received " ++ value.typeName }

def missing (path : Location) (expected : String) : Issue :=
  { path, kind := .missing, message := "Required " ++ expected ++ " is missing" }

def unrecognized (path : Location) : Issue :=
  { path, kind := .unrecognized, message := "Unrecognized key" }

def within (path : Location) (issue : Issue) : Issue :=
  { issue with path := path ++ issue.path }

/-- One more step of a dotted path: a dot before each key but a first one. -/
def appendSegment (text : List Char) : Segment → List Char
  | .key name => (if text.isEmpty then [] else text ++ ['.']) ++ name.toList
  | .index i => text ++ '[' :: (Nat.toDigits 10 i ++ [']'])

/-- The path as in `params.items[0].text`. -/
def dottedPath (path : Location) : String :=
  String.ofList (path.foldl appendSegment [])

def text (issue : Issue) : String :=
  (if issue.path.isEmpty then "  (root): " else "  " ++ dottedPath issue.path ++ ": ") ++
    issue.message

def report (issues : List Issue) : String :=
  "\n".intercalate (issues.map text)

def pathToJson (path : Location) : Json.Value :=
  .array (path.map fun
    | .key name => .string name
    | .index i => .nat i)

def toJson (issue : Issue) : Json.Value :=
  let path := pathToJson issue.path
  let message := Json.Value.string issue.message
  match issue.kind with
  | .mismatch expected received =>
    .object [("expected", .string expected), ("kind", .string "structural_mismatch"),
      ("message", message), ("path", path), ("received", .string received)]
  | .missing =>
    .object [("kind", .string "missing_required"), ("message", message), ("path", path)]
  | .unrecognized =>
    .object [("kind", .string "unrecognized_key"), ("message", message), ("path", path)]

end Issue

end ComponentSchema
