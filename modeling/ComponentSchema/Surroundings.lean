import ComponentSchema.Path

/-!
What a command sees of the system it runs on: variables, files and an input.

The operations belong to any monad, so that a command can be run on a real system or be studied on a
given one.
-/

set_option autoImplicit false

namespace ComponentSchema

inductive ReadFault where
  | notFound
  | notADirectory
  | isADirectory
  | nameTooLong
  | nulInName
  | notText
  | other (message : String)
  deriving DecidableEq

def ReadFault.message : ReadFault → String
  | .notFound => "No such file or directory (os error 2)"
  | .notADirectory => "Not a directory (os error 20)"
  | .isADirectory => "Is a directory (os error 21)"
  | .nameTooLong => "File name too long (os error 36)"
  | .nulInName => "file name contained an unexpected NUL byte"
  | .notText => "stream did not contain valid UTF-8"
  | .other message => message

/-- The system around a command. -/
structure Surroundings (m : Type → Type) where
  variableValue? : String → m (Option String)
  readFile : Path → m (Except ReadFault ByteArray)
  readInput : m (Except ReadFault ByteArray)

def textOfBytes (bytes : ByteArray) : Except ReadFault String :=
  match String.fromUTF8? bytes with
  | some text => .ok text
  | none => .error .notText

namespace Surroundings

def given {m : Type → Type} [Monad m] (variableValue? : String → Option String)
    (file : Path → Except ReadFault ByteArray) (input : Except ReadFault ByteArray) :
    Surroundings m where
  variableValue? name := pure (variableValue? name)
  readFile path := pure (file path)
  readInput := pure input

variable {m : Type → Type} [Monad m] (s : Surroundings m)

def readText (path : Path) : m (Except ReadFault String) := do
  return (← s.readFile path) >>= textOfBytes

def readInputText : m (Except ReadFault String) := do
  return (← s.readInput) >>= textOfBytes

end Surroundings

end ComponentSchema
