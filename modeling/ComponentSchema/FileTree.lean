import ComponentSchema.Surroundings

/-!
File trees in memory.

A tree holds files and directories below one directory, in which paths start. Around it lies nothing
but the directories that lead to it.
-/

set_option autoImplicit false

namespace ComponentSchema

inductive FileEntry where
  | file (bytes : ByteArray)
  | directory

/-- Files and directories by the names that lead to them. Directories on the way need no entry. -/
structure FileTree where
  entries : List (List String × FileEntry) := []

namespace FileTree

def find? (tree : FileTree) (place : List String) : Option FileEntry :=
  match tree.entries.lookup place with
  | some entry => some entry
  | none =>
    if place.isEmpty || tree.entries.any fun (names, _) => place.isPrefixOf names then
      some .directory
    else none

/-- Where a walk along a path has come to: a place in the tree, or a directory around it. -/
inductive Position where
  | inside (place : List String)
  | outside

def maxNameSize : Nat := 255

def enter (tree : FileTree) (name : String) : Position → Except ReadFault Position
  | .outside => if maxNameSize < name.utf8ByteSize then .error .nameTooLong else .error .notFound
  | .inside place =>
    match tree.find? place with
    | none => .error .notFound
    | some (.file _) => .error .notADirectory
    | some .directory =>
      if maxNameSize < name.utf8ByteSize then .error .nameTooLong
      else
        match tree.find? (place ++ [name]) with
        | none => .error .notFound
        | some _ => .ok (.inside (place ++ [name]))

def remain (tree : FileTree) (upward : Bool) : Position → Except ReadFault Position
  | .outside => .ok .outside
  | .inside place =>
    match tree.find? place with
    | some .directory =>
      if !upward then .ok (.inside place)
      else if place.isEmpty then .ok .outside
      else .ok (.inside place.dropLast)
    | _ => .error .notADirectory

/-- Walk along the segments of a path. An empty one asks for a directory, like a dot. -/
def walk (tree : FileTree) : List (List Char) → Position → Except ReadFault Position
  | [], position => .ok position
  | segment :: rest, position => do
    -- A step must start from a directory, also one that leads nowhere else.
    let next ←
      if segment = [] ∨ segment = ['.'] then tree.remain false position
      else if segment = ['.', '.'] then tree.remain true position
      else tree.enter (String.ofList segment) position
    tree.walk rest next

def maxPathSize : Nat := 4095

def read (tree : FileTree) (path : Path) : Except ReadFault ByteArray := do
  if path.text.toList.contains '\x00' then .error .nulInName
  if path.text.isEmpty then .error .notFound
  if maxPathSize < path.text.utf8ByteSize then .error .nameTooLong
  let start : Position := if path.isAbsolute then .outside else .inside []
  match ← tree.walk (Path.segments path.text.toList) start with
  | .outside => .error .isADirectory
  | .inside place =>
    match tree.find? place with
    | some (.file bytes) => .ok bytes
    | some .directory => .error .isADirectory
    | none => .error .notFound

end FileTree

end ComponentSchema
