import ComponentSchema.Text.Hidden

/-! Quoted text for messages and logs: between double quotes, with hidden characters spelled out. -/

set_option autoImplicit false

namespace ComponentSchema.Text

/-- One character between the quotes: a short escape where there is one, a code point in braces for
other hidden characters, and otherwise the character. -/
def quotedChar (c : Char) : List Char :=
  match c with
  | '\x00' => ['\\', '0']
  | '\t' => ['\\', 't']
  | '\n' => ['\\', 'n']
  | '\r' => ['\\', 'r']
  | '"' => ['\\', '"']
  | '\\' => ['\\', '\\']
  | c =>
    if isHidden c then '\\' :: 'u' :: '\x7b' :: (Nat.toDigits 16 c.toNat ++ ['\x7d']) else [c]

def quoted (text : String) : String :=
  String.ofList ('"' :: (text.toList.flatMap quotedChar ++ ['"']))

end ComponentSchema.Text
