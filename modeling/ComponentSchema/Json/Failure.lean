import ComponentSchema.Form

/-! Why JSON text is refused: it is no JSON, or its values do not have the expected form. -/

set_option autoImplicit false

namespace ComponentSchema.Json

inductive SyntaxFault where
  | endOfValue
  | endOfList
  | endOfObject
  | endOfString
  | expectedValue
  | expectedIdent
  | expectedColon
  | expectedCommaOrBracket
  | expectedCommaOrBrace
  | keyNotString
  | trailingComma
  | trailingCharacters
  | invalidNumber
  | numberOutOfRange
  | invalidEscape
  | endOfHexEscape
  | loneSurrogate
  | controlCharacter
  | tooDeep
  deriving DecidableEq

def SyntaxFault.message : SyntaxFault → String
  | .endOfValue => "EOF while parsing a value"
  | .endOfList => "EOF while parsing a list"
  | .endOfObject => "EOF while parsing an object"
  | .endOfString => "EOF while parsing a string"
  | .expectedValue => "expected value"
  | .expectedIdent => "expected ident"
  | .expectedColon => "expected `:`"
  | .expectedCommaOrBracket => "expected `,` or `]`"
  | .expectedCommaOrBrace => "expected `,` or `\x7d`"
  | .keyNotString => "key must be a string"
  | .trailingComma => "trailing comma"
  | .trailingCharacters => "trailing characters"
  | .invalidNumber => "invalid number"
  | .numberOutOfRange => "number out of range"
  | .invalidEscape => "invalid escape"
  | .endOfHexEscape => "unexpected end of hex escape"
  | .loneSurrogate => "lone leading surrogate in hex escape"
  | .controlCharacter => "control character (\\u0000-\\u001F) found while parsing a string"
  | .tooDeep => "recursion limit exceeded"

inductive Cause where
  | malformed (fault : SyntaxFault)
  | mismatched (mismatch : Mismatch)

def Cause.message : Cause → String
  | .malformed fault => fault.message
  | .mismatched mismatch => mismatch.message

/-- A refusal while reading, with the number of bytes that were still unread. -/
structure Failure where
  cause : Cause
  unread : Nat

/-- A refusal with its line, from one, and the number of bytes read of that line. -/
structure Error where
  cause : Cause
  line : Nat
  column : Nat

def Error.message (e : Error) : String :=
  e.cause.message

def Error.located (e : Error) : String :=
  e.message ++ " at line " ++ toString e.line ++ " column " ++ toString e.column

def position (line column : Nat) : (bytes : Nat) → List Char → Nat × Nat
  | _, [] => (line, column)
  | bytes, c :: rest =>
    if bytes = 0 then (line, column)
    else if c = '\n' then position (line + 1) 0 (bytes - 1) rest
    else if bytes < c.utf8Size then (line, column + bytes)
    else position line (column + c.utf8Size) (bytes - c.utf8Size) rest

def Failure.locate (failure : Failure) (text : String) : Error :=
  let (line, column) := position 1 0 (text.utf8ByteSize - failure.unread) text.toList
  ⟨failure.cause, line, column⟩

end ComponentSchema.Json
