import ComponentSchema.Json.Value
import ComponentSchema.Log
import ComponentSchema.Text.Quoted

/-! Log events as lines of text and as JSON objects. -/

set_option autoImplicit false

namespace ComponentSchema.Log

def Level.name : Level → String
  | .trace => "TRACE"
  | .debug => "DEBUG"
  | .info => "INFO"
  | .warn => "WARN"
  | .error => "ERROR"

namespace Content

def text : Content → String
  | .quoted text => text
  | .shown text => text
  | .count n => toString n

def inLine : Content → String
  | .quoted text => Text.quoted text
  | .shown text => text
  | .count n => toString n

def toJson : Content → Json.Value
  | .quoted text => .string text
  | .shown text => .string text
  | .count n => .nat n

end Content

/-- Spell out the control characters that a terminal acts upon. -/
def inertChar (c : Char) : List Char :=
  match c with
  | '\x07' => "\\x07".toList
  | '\x08' => "\\x08".toList
  | '\x0c' => "\\x0c".toList
  | '\x1b' => "\\x1b".toList
  | '\x7f' => "\\x7f".toList
  | c =>
    if '\x80' ≤ c ∧ c ≤ '\x9f' then '\\' :: 'u' :: '\x7b' :: (Nat.toDigits 16 c.toNat ++ ['\x7d'])
    else [c]

namespace Event

def line (e : Event) : String :=
  let message := String.ofList (e.message.toList.flatMap inertChar)
  " ".intercalate
    (e.level.name :: message :: e.fields.map fun (name, content) => name ++ "=" ++ content.inLine)

def toJson (e : Event) : Json.Value :=
  .object [
    ("level", .string e.level.name),
    ("fields", .object (("message", .string e.message) ::
      e.fields.map fun (name, content) => (name, content.toJson)))]

end Event

end ComponentSchema.Log
