/-!
Paths of files, as texts whose parts are divided by slashes.

A path keeps the text it was made from. Two texts may stand for the same parts: a slash too many, or
a dot that is not in front, changes nothing.
-/

set_option autoImplicit false

namespace ComponentSchema

inductive PathPart where
  | root
  | current
  | parent
  | named (name : String)
  deriving DecidableEq

structure Path where
  text : String
  deriving DecidableEq

namespace Path

def segments (text : List Char) : List (List Char) :=
  text.splitOn '/'

def part? (segment : List Char) : Option PathPart :=
  if segment = [] ∨ segment = ['.'] then none
  else if segment = ['.', '.'] then some .parent
  else some (.named (String.ofList segment))

/-- The part for the first segment, which is empty in front of the slash of an absolute path. -/
def firstPart? (segment : List Char) (isAlone : Bool) : Option PathPart :=
  if segment = [] then if isAlone then none else some .root
  else if segment = ['.'] then some .current
  else part? segment

def parts (path : Path) : List PathPart :=
  match segments path.text.toList with
  | [] => []
  | first :: rest => (firstPart? first rest.isEmpty).toList ++ rest.filterMap part?

def isAbsolute (path : Path) : Bool :=
  path.text.toList.head? = some '/'

def staysInside (path : Path) : Bool :=
  path.parts.all fun
    | .current => true
    | .named _ => true
    | .root => false
    | .parent => false

/-- A path below another. An absolute one stands for itself, and no slash follows an empty path or
one that ends in a slash. -/
def join (path : Path) (below : String) : Path :=
  let head := path.text.toList
  if isAbsolute ⟨below⟩ then ⟨below⟩
  else if head.isEmpty || head.getLast? = some '/' then ⟨path.text ++ below⟩
  else ⟨path.text ++ "/" ++ below⟩

def fileName? (path : Path) : Option String :=
  match path.parts.getLast? with
  | some (.named name) => some name
  | _ => none

/-- What follows the last dot of the name at the end, unless that dot is in front. -/
def extension? (path : Path) : Option String := do
  let name ← path.fileName?
  let reversed := name.toList.reverse
  let suffix := reversed.takeWhile (· ≠ '.')
  match reversed.dropWhile (· ≠ '.') with
  | '.' :: _ :: _ => some (String.ofList suffix.reverse)
  | _ => none

def isSame (path other : Path) : Bool :=
  path.parts == other.parts

end Path

end ComponentSchema
