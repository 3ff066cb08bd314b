import ComponentSchema.Json.Value
import ComponentSchema.Yaml.Scalar

/-!
YAML text of a value, in block form.

Members and items stand on lines of their own; the items of a list that is the value of a key stand
at the column of the key. A string is written in the plainest style that is read back as that
string: several lines as a literal block, other texts plain, in single quotes or in double quotes.
-/

set_option autoImplicit false

namespace ComponentSchema.Yaml.Writing

/-! ### Styles -/

def isBreak (c : Char) : Bool :=
  c = '\n' || c = '\r' || c = '\x85' || c = '\u2028' || c = '\u2029'

def isBlankOrBreak (c : Char) : Bool :=
  c = ' ' || c = '\t' || isBreak c

/-- Characters that may stand outside of double quotes: all but controls other than the line feed,
the byte order mark and two code points that are no characters. -/
def isPrintable (c : Char) : Bool :=
  c = '\n' || (' ' ≤ c && c ≤ '~') ||
    ('\xa0' ≤ c && c ≠ '\ufeff' && c ≠ '\ufffe' && c ≠ '\uffff')

def hasPair (first second : Char → Bool) : List Char → Bool
  | a :: b :: rest => (first a && second b) || hasPair first second (b :: rest)
  | _ => false

def hasSpaceBeforeBreak : List Char → Bool :=
  hasPair (· = ' ') isBreak

def hasSpaceAfterBreak : List Char → Bool :=
  hasPair isBreak (· = ' ')

/-- Whether a text starts with a character that has a meaning in front of a value, or with a mark of
a document. -/
def startsWithIndicator : List Char → Bool
  | '-' :: '-' :: '-' :: _ => true
  | '.' :: '.' :: '.' :: _ => true
  | c :: rest =>
    if c = '?' ∨ c = ':' ∨ c = '-' then rest.head?.all isBlankOrBreak
    else "#,[]\x7b\x7d&*!|>\x27\"%@\x60".toList.contains c
  | [] => false

def hasInnerIndicator (text : List Char) : Bool :=
  text.getLast? = some ':' || hasPair (· = ':') isBlankOrBreak text ||
    hasPair isBlankOrBreak (· = '#') text

def allowsPlain (text : List Char) : Bool :=
  text.head? ≠ some ' ' && text.getLast? ≠ some ' ' &&
    text.all (fun c => isPrintable c && !isBreak c) &&
    !startsWithIndicator text && !hasInnerIndicator text

def allowsSingleQuotes (text : List Char) : Bool :=
  text.all isPrintable && !hasSpaceBeforeBreak text && !hasSpaceAfterBreak text

def allowsLiteral (text : List Char) : Bool :=
  text.all isPrintable && !hasSpaceBeforeBreak text && text.getLast? ≠ some ' '

/-- Whether a plain scalar of this text is read back as the text, by this reader and by others. -/
def readsAsText (s : String) : Bool :=
  match Scalar.ofPlain s with
  | .text _ => !Scalar.isPaddedInteger s
  | _ => false

def styleOf (s : String) : ScalarStyle :=
  let text := s.toList
  -- A text of several lines is never plain, and in single quotes it would be folded.
  if text.contains '\n' then if allowsLiteral text then .literal else .doubleQuoted
  else if readsAsText s && allowsPlain text then .plain
  else if allowsSingleQuotes text then .singleQuoted
  else .doubleQuoted

/-! ### Scalars -/

def spaces (column : Nat) : List Char :=
  List.replicate column ' '

def indentedLines (column : Nat) : (atStart : Bool) → List Char → List Char
  | _, [] => []
  | atStart, c :: rest =>
    if isBreak c then c :: indentedLines column true rest
    else if atStart then spaces column ++ c :: indentedLines column false rest
    else c :: indentedLines column false rest

/-- The header of a literal block: the indentation, where the text does not show it, and what is
done with breaks at the end. -/
def literalHeader (text : List Char) : List Char :=
  let indentation := if text.head?.any isBlankOrBreak then ['2'] else []
  let chomping :=
    match text.reverse with
    | [] => ['-']
    | [_] => if text.all isBreak then ['+'] else ['-']
    | last :: previous :: _ =>
      if !isBreak last then ['-'] else if isBreak previous then ['+'] else []
  '|' :: (indentation ++ chomping)

def singleQuoted (column : Nat) (text : List Char) : List Char :=
  let doubled := text.flatMap fun c => if c = '\x27' then [c, c] else [c]
  let lines := indentedLines column false doubled
  let closing := if text.getLast?.any isBreak then spaces column else []
  '\x27' :: (lines ++ closing ++ ['\x27'])

def hexDigits (width : Nat) (c : Char) : List Char :=
  let digits := (Nat.toDigits 16 c.toNat).map Char.toUpper
  List.replicate (width - digits.length) '0' ++ digits

def doubleQuotedChar (c : Char) : List Char :=
  match c with
  | '\x00' => ['\\', '0']
  | '\x07' => ['\\', 'a']
  | '\x08' => ['\\', 'b']
  | '\t' => ['\\', 't']
  | '\n' => ['\\', 'n']
  | '\x0b' => ['\\', 'v']
  | '\x0c' => ['\\', 'f']
  | '\r' => ['\\', 'r']
  | '\x1b' => ['\\', 'e']
  | '"' => ['\\', '"']
  | '\\' => ['\\', '\\']
  | '\x85' => ['\\', 'N']
  | '\u2028' => ['\\', 'L']
  | '\u2029' => ['\\', 'P']
  | c =>
    if isPrintable c then [c]
    else if c.toNat ≤ 0xFF then '\\' :: 'x' :: hexDigits 2 c
    else if c.toNat ≤ 0xFFFF then '\\' :: 'u' :: hexDigits 4 c
    else '\\' :: 'U' :: hexDigits 8 c

/-- A string whose further lines start at the given column. -/
def scalar (column : Nat) (s : String) : String :=
  let text := s.toList
  match styleOf s with
  | .plain => s
  | .singleQuoted => String.ofList (singleQuoted column text)
  | .literal => String.ofList (literalHeader text ++ '\n' :: indentedLines column true text)
  | _ => String.ofList ('"' :: (text.flatMap doubleQuotedChar ++ ['"']))

/-! ### Values -/

def endLine (text : String) : String :=
  if text.toList.getLast?.any isBreak then text else text ++ "\n"

def onLines (column : Nat) : List String → String
  | [] => ""
  | [text] => text
  | text :: rest => endLine text ++ String.ofList (spaces column) ++ onLines column rest

def below (column : Nat) (texts : List String) : String :=
  "\n" ++ String.ofList (spaces column) ++ onLines column texts

mutual

def node (column : Nat) : Json.Value → String
  | .null => "null"
  | .boolean b => if b then "true" else "false"
  | .number n => n.text
  | .string s => scalar column s
  | .array [] => "[]"
  | .object [] => "\x7b\x7d"
  | .array (item :: rest) => onLines column (itemTexts column (item :: rest))
  | .object (member :: rest) => onLines column (memberTexts column (member :: rest))

def itemTexts (column : Nat) : List Json.Value → List String
  | [] => []
  | item :: rest => ("- " ++ node (column + 2) item) :: itemTexts column rest

def memberTexts (column : Nat) : Json.Members → List String
  | [] => []
  | (key, value) :: rest =>
    let value :=
      match value with
      | .array (item :: items) => below column (itemTexts column (item :: items))
      | .object (member :: members) =>
          below (column + 2) (memberTexts (column + 2) (member :: members))
      | flat => " " ++ node (column + 2) flat
    (scalar (column + 2) key ++ ":" ++ value) :: memberTexts column rest

end

end ComponentSchema.Yaml.Writing

namespace ComponentSchema.Json

def Value.yaml (value : Value) : String :=
  Yaml.Writing.endLine (Yaml.Writing.node 0 value)

end ComponentSchema.Json
