import ComponentSchema.Json.Value
import ComponentSchema.Text.Blank

/-!
Component names and frontend versions.

Both become parts of paths, so both are checked when they are made. A component name is words of
lowercase letters and digits joined by single hyphens; a version is anything that names one
directory.
-/

set_option autoImplicit false

namespace ComponentSchema

inductive IdentifierKind where
  | componentName
  | frontendVersion
  deriving DecidableEq

def IdentifierKind.title : IdentifierKind → String
  | .componentName => "component name"
  | .frontendVersion => "frontend version"

inductive IdentifierFault where
  | empty
  | character
  | hyphens
  | separator
  | parent
  | blank
  deriving DecidableEq

def IdentifierFault.message : IdentifierFault → String
  | .empty => "must not be empty"
  | .character => "only lowercase letters, digits and hyphens are allowed"
  | .hyphens => "hyphens must separate words"
  | .separator => "must not contain path separators"
  | .parent => "must not contain '..'"
  | .blank => "must not contain whitespace"

structure InvalidIdentifier where
  kind : IdentifierKind
  value : String
  fault : IdentifierFault
  deriving DecidableEq

def InvalidIdentifier.message (e : InvalidIdentifier) : String :=
  "invalid " ++ e.kind.title ++ " '" ++ e.value ++ "': " ++ e.fault.message

def hasDouble (c : Char) : List Char → Bool
  | a :: b :: rest => (a = c && b = c) || hasDouble c (b :: rest)
  | _ => false

namespace ComponentName

def isWordChar (c : Char) : Bool :=
  ('a' ≤ c && c ≤ 'z') || ('0' ≤ c && c ≤ '9')

def fault? (text : List Char) : Option IdentifierFault :=
  if text.isEmpty then some .empty
  else if !text.all fun c => isWordChar c || c = '-' then some .character
  else if text.head? = some '-' || text.getLast? = some '-' || hasDouble '-' text then
    some .hyphens
  else none

end ComponentName

structure ComponentName where
  text : String
  valid : ComponentName.fault? text.toList = none
  deriving DecidableEq

namespace FrontendVersion

def fault? (text : List Char) : Option IdentifierFault :=
  if text.isEmpty then some .empty
  else if text.any fun c => c = '/' || c = '\\' then some .separator
  else if hasDouble '.' text then some .parent
  else if text.any fun c => Text.isWhiteSpace c || Text.isControl c then some .blank
  else none

end FrontendVersion

/-- The version of a frontend: the name of the directory that holds its checkout. -/
structure FrontendVersion where
  text : String
  valid : FrontendVersion.fault? text.toList = none
  deriving DecidableEq

def ComponentName.ofString (text : String) : Except InvalidIdentifier ComponentName :=
  match h : ComponentName.fault? text.toList with
  | none => .ok ⟨text, h⟩
  | some fault => .error ⟨.componentName, text, fault⟩

def FrontendVersion.ofString (text : String) : Except InvalidIdentifier FrontendVersion :=
  match h : FrontendVersion.fault? text.toList with
  | none => .ok ⟨text, h⟩
  | some fault => .error ⟨.frontendVersion, text, fault⟩

theorem ComponentName.ofString_ok_iff {text : String} {name : ComponentName} :
    ofString text = .ok name ↔ name.text = text := by
  constructor
  · intro h
    unfold ofString at h
    split at h
    · cases h
      rfl
    · cases h
  · rintro rfl
    unfold ofString
    split
    · rfl
    · rename_i fault h
      simp [name.valid] at h

theorem FrontendVersion.ofString_ok_iff {text : String} {version : FrontendVersion} :
    ofString text = .ok version ↔ version.text = text := by
  constructor
  · intro h
    unfold ofString at h
    split at h
    · cases h
      rfl
    · cases h
  · rintro rfl
    unfold ofString
    split
    · rfl
    · rename_i fault h
      simp [version.valid] at h

/-- Texts in code point order, each once. -/
def sortedTexts (texts : List String) : List String :=
  (texts.mergeSort fun a b => a ≤ b).eraseReps

end ComponentSchema
