import ComponentSchema.Json.Value

/-! JSON text of a value, on one line or indented by two spaces a level. -/

set_option autoImplicit false

namespace ComponentSchema.Json

def codePointEscape (c : Char) : List Char :=
  let digits := Nat.toDigits 16 c.toNat
  '\\' :: 'u' :: (List.replicate (4 - digits.length) '0' ++ digits)

/-- One character of a string: quotes, backslashes and C0 controls are escaped, by a short escape
where there is one, and further characters as the writer asks. -/
def escapedChar (further : Char → Bool) (c : Char) : List Char :=
  match c with
  | '"' => ['\\', '"']
  | '\\' => ['\\', '\\']
  | '\x08' => ['\\', 'b']
  | '\t' => ['\\', 't']
  | '\n' => ['\\', 'n']
  | '\x0c' => ['\\', 'f']
  | '\r' => ['\\', 'r']
  | c => if c.toNat < 0x20 || further c then codePointEscape c else [c]

def writeString (further : Char → Bool) (s : String) : String :=
  String.ofList ('"' :: (s.toList.flatMap (escapedChar further) ++ ['"']))

namespace Value

mutual

def compact (further : Char → Bool) : Value → String
  | .null => "null"
  | .boolean b => if b then "true" else "false"
  | .number n => n.text
  | .string s => writeString further s
  | .array items => "[" ++ ",".intercalate (compactItems further items) ++ "]"
  | .object members => "\x7b" ++ ",".intercalate (compactMembers further members) ++ "\x7d"

def compactItems (further : Char → Bool) : List Value → List String
  | [] => []
  | item :: rest => item.compact further :: compactItems further rest

def compactMembers (further : Char → Bool) : List (String × Value) → List String
  | [] => []
  | (key, value) :: rest =>
    (writeString further key ++ ":" ++ value.compact further) :: compactMembers further rest

end

def lineBreak (level : Nat) : String :=
  String.ofList ('\n' :: List.replicate (2 * level) ' ')

mutual

def prettyAt (level : Nat) : Value → String
  | .array (item :: items) =>
    let lines := prettyItems (level + 1) (item :: items)
    "[" ++ ",".intercalate lines ++ lineBreak level ++ "]"
  | .object (member :: members) =>
    let lines := prettyMembers (level + 1) (member :: members)
    "\x7b" ++ ",".intercalate lines ++ lineBreak level ++ "\x7d"
  | flat => flat.compact fun _ => false

def prettyItems (level : Nat) : List Value → List String
  | [] => []
  | item :: rest => (lineBreak level ++ item.prettyAt level) :: prettyItems level rest

def prettyMembers (level : Nat) : List (String × Value) → List String
  | [] => []
  | (key, value) :: rest =>
    (lineBreak level ++ writeString (fun _ => false) key ++ ": " ++ value.prettyAt level) ::
      prettyMembers level rest

end

/-- The value over several lines; an empty array or object stays on one. -/
def pretty (value : Value) : String :=
  value.prettyAt 0

end Value

end ComponentSchema.Json
