import ComponentSchema.Layout
import ComponentSchema.Log
import ComponentSchema.Spec.Document
import ComponentSchema.Surroundings

/-!
Failures of commands: what a command could not do, and for what reason.

A failure is not a verdict. A request body or an example that does not pass is an outcome of a
command that worked.
-/

set_option autoImplicit false

namespace ComponentSchema

inductive Failure where
  | layout (error : LayoutError)
  | identifier (error : InvalidIdentifier)
  | noVersion
  | unreadableSpec (path : Path) (fault : ReadFault)
  | invalidSpec (path : Path) (error : DecodeError)
  | unreadableBody (path : Path) (fault : ReadFault)
  | unreadableInput (fault : ReadFault)
  | invalidBody (error : Json.Error)

structure Wording where
  ofSpec : DecodeError → String
  ofBody : Json.Error → String

def Wording.located : Wording :=
  { ofSpec := DecodeError.located, ofBody := Json.Error.located }

namespace Failure

/-- What failed, followed by why, down to the first cause. -/
def chain (wording : Wording) : Failure → List String
  | .layout error => ["invalid repository layout configuration", error.message]
  | .identifier error => [error.message]
  | .noVersion => ["either --frontend-version or --spec is required"]
  | .unreadableSpec path fault => ["cannot read component spec " ++ path.text, fault.message]
  | .invalidSpec path error => ["invalid component spec " ++ path.text, wording.ofSpec error]
  | .unreadableBody path fault => ["cannot read request body " ++ path.text, fault.message]
  | .unreadableInput fault => ["cannot read request body from stdin", fault.message]
  | .invalidBody error => ["request body is not valid JSON", wording.ofBody error]

def message (wording : Wording) (failure : Failure) : String :=
  ": ".intercalate (failure.chain wording)

end Failure

def orFail {m : Type → Type} [Monad m] {ε α : Type} (failure : ε → Failure) (outcome : Except ε α) :
    ExceptT Failure m α :=
  ExceptT.mk (pure (outcome.mapError failure))

end ComponentSchema
