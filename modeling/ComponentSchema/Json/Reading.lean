import ComponentSchema.Json.Failure

/-!
Reading JSON text.

`Json.readAs` follows a `Form`: it builds the declared part of a document and skips the rest,
checking of a skipped value only that it is well formed. `Json.parse` reads a free value. Both stop
at the first problem of the document. At most 127 arrays and objects may enclose a value that is
built; a skipped value may be nested to any depth.
-/

set_option autoImplicit false

namespace ComponentSchema.Json

/-- A reader consumes characters from the front of the text. It knows how many characters the whole
text has, which bounds every loop that consumes one a round. -/
abbrev Reader := ReaderT Nat (StateT (List Char) (Except Failure))

namespace Reader

variable {α : Type}

def byteSize (text : List Char) : Nat :=
  text.foldl (fun size c => size + c.utf8Size) 0

/-- Stop before the unread text, some of its bytes counted as read. -/
def stop (cause : Cause) (ahead : Nat) (rest : List Char) : Except Failure α :=
  .error ⟨cause, byteSize rest - ahead⟩

def fail (fault : SyntaxFault) : Reader α :=
  fun _ rest => stop (.malformed fault) 0 rest

/-- Stop at the next character, its first byte counted as read. -/
def failAt (fault : SyntaxFault) : Reader α :=
  fun _ rest => stop (.malformed fault) 1 rest

def mismatch (m : Mismatch) : Reader α :=
  fun _ rest => stop (.mismatched m) 0 rest

def isBlank (c : Char) : Bool :=
  c == ' ' || c == '\t' || c == '\n' || c == '\r'

def peek : Reader (Option Char) := do
  modify (·.dropWhile isBlank)
  return (← get).head?

def skip : Reader Unit :=
  modify List.tail

/-! ### Literals and numbers -/

def ident : List Char → Reader Unit
  | [] => return ()
  | expected :: more => do
    match ← get with
    | [] => fail .endOfValue
    | c :: rest =>
      if c = expected then
        set rest
        ident more
      else failAt .expectedIdent

def digits : Reader (List Char) := do
  let rest ← get
  set (rest.dropWhile Char.isDigit)
  return rest.takeWhile Char.isDigit

def digitValue (c : Char) : Nat :=
  c.toNat - '0'.toNat

def maxUnsigned : Nat := Nat.pow 2 64 - 1

structure Magnitude where
  significand : Nat := 0
  exponent : Int := 0
  full : Bool := false

/-- One more digit before the point. The significand holds 64 bits; from the first digit that does
not fit, each one only raises the exponent. -/
def Magnitude.wholeDigit (m : Magnitude) (c : Char) : Magnitude :=
  let next := m.significand * 10 + digitValue c
  if m.full || maxUnsigned < next then { m with exponent := m.exponent + 1, full := true }
  else { m with significand := next }

/-- One more digit after the point; digits that do not fit are dropped. -/
def Magnitude.fractionDigit (m : Magnitude) (c : Char) : Magnitude :=
  let next := m.significand * 10 + digitValue c
  if m.full || maxUnsigned < next then { m with full := true }
  else { m with significand := next, exponent := m.exponent - 1 }

def maxPower : Nat := 308

def divideDown : (steps : Nat) → Binary64 → Option Binary64
  | 0, x => some x
  | steps + 1, x =>
    if x.isZero then some x
    else Binary64.powerOfTen? maxPower >>= x.div? >>= divideDown steps

/-- Divide by a power of ten, in several steps where one does not reach. -/
def divide (x : Binary64) (power : Nat) : Option Binary64 := do
  let steps := (power - 1) / maxPower
  let y ← divideDown steps x
  Binary64.powerOfTen? (power - steps * maxPower) >>= y.div?

/-- The float of a magnitude: the significand rounded, then one product or quotient by a power of
ten, rounded again. -/
def Magnitude.toFloat? (m : Magnitude) : Option Binary64 := do
  let x ← Binary64.ofNat? m.significand
  if m.exponent < 0 then divide x (-m.exponent).toNat
  else if m.exponent ≤ maxPower then Binary64.powerOfTen? m.exponent.toNat >>= x.mul?
  else if x.isZero then x
  else none

def signed (negative : Bool) (x : Binary64) : Binary64 :=
  if negative then x.neg else x

def float (negative : Bool) (m : Magnitude) : Reader Number :=
  match m.toFloat? with
  | some x => return .float (signed negative x)
  | none => fail .numberOutOfRange

/-- The greatest exponent that is computed with; a greater one gives zero or is out of range. -/
def maxExponent : Nat := Nat.pow 2 31 - 1

def exponentDigits (negative : Bool) (m : Magnitude) (upward : Bool) :
    Nat → List Char → Reader Number
  | power, c :: more =>
    let next := power * 10 + digitValue c
    if maxExponent < next then
      if m.significand ≠ 0 ∧ upward then
        fun _ rest => stop (.malformed .numberOutOfRange) 0 (more ++ rest)
      else return .float (Binary64.zero negative)
    else exponentDigits negative m upward next more
  | power, [] =>
    float negative { m with exponent := if upward then m.exponent + power else m.exponent - power }

def exponent (negative : Bool) (m : Magnitude) : Reader Number := do
  let upward ←
    match ← get with
    | '+' :: rest => set rest; pure true
    | '-' :: rest => set rest; pure false
    | _ => pure true
  match ← get with
  | [] => fail .endOfValue
  | c :: _ =>
    if c.isDigit then exponentDigits negative m upward 0 (← digits) else failAt .invalidNumber

def fraction (negative : Bool) (m : Magnitude) : Reader Number := do
  match ← digits with
  | [] => if (← get).isEmpty then failAt .endOfValue else failAt .invalidNumber
  | places =>
    let m := places.foldl Magnitude.fractionDigit { m with full := false }
    match ← get with
    | c :: rest =>
      if c = 'e' ∨ c = 'E' then
        set rest
        exponent negative m
      else float negative m
    | [] => float negative m

/-- An integer of the given sign, in 64 bits if it fits; minus zero and everything larger is a
float. -/
def integer (negative : Bool) (m : Magnitude) : Reader Number :=
  if m.full then float negative m
  else if !negative then return .unsigned (UInt64.ofNat m.significand)
  else if m.significand = 0 ∨ Nat.pow 2 63 < m.significand then float negative m
  else return .signed (Int64.ofInt (-(m.significand : Int)))

def number (negative : Bool) : Reader Number := do
  match ← digits with
  | [] => if (← get).isEmpty then fail .endOfValue else failAt .invalidNumber
  | '0' :: _ :: more => fun _ rest => stop (.malformed .invalidNumber) 0 (more ++ rest)
  | whole =>
    let m := whole.foldl Magnitude.wholeDigit {}
    match ← get with
    | '.' :: rest =>
      set rest
      fraction negative m
    | c :: rest =>
      if c = 'e' ∨ c = 'E' then
        set rest
        exponent negative m
      else integer negative m
    | [] => integer negative m

/-! ### Strings -/

def hexDigit? (c : Char) : Option Nat :=
  if c.isDigit then some (c.toNat - '0'.toNat)
  else if 'a' ≤ c ∧ c ≤ 'f' then some (c.toNat - 'a'.toNat + 10)
  else if 'A' ≤ c ∧ c ≤ 'F' then some (c.toNat - 'A'.toNat + 10)
  else none

def codeUnit : List Char → Except Failure (Nat × List Char)
  | text@(a :: b :: c :: d :: rest) =>
    match hexDigit? a, hexDigit? b, hexDigit? c, hexDigit? d with
    | some a, some b, some c, some d => .ok (((a * 16 + b) * 16 + c) * 16 + d, rest)
    | _, _, _, _ => badUnit text
  | text => badUnit text
where
  badUnit (text : List Char) : Except Failure (Nat × List Char) :=
    if byteSize text < 4 then stop (.malformed .endOfString) 0 []
    else stop (.malformed .invalidEscape) 4 text

def shortEscape? : Char → Option Char
  | '"' => some '"'
  | '\\' => some '\\'
  | '/' => some '/'
  | 'b' => some '\x08'
  | 'f' => some '\x0c'
  | 'n' => some '\n'
  | 'r' => some '\r'
  | 't' => some '\t'
  | _ => none

def isHighSurrogate (unit : Nat) : Bool := 0xD800 ≤ unit && unit ≤ 0xDBFF

def isLowSurrogate (unit : Nat) : Bool := 0xDC00 ≤ unit && unit ≤ 0xDFFF

def secondHalf (high : Nat) : List Char → Except Failure (Char × List Char)
  | [] => stop (.malformed .endOfString) 0 []
  | '\\' :: [] => stop (.malformed .endOfString) 0 []
  | '\\' :: 'u' :: rest => do
    let (low, rest) ← codeUnit rest
    if isLowSurrogate low then
      return (Char.ofNat ((high - 0xD800) * 0x400 + (low - 0xDC00) + 0x10000), rest)
    else stop (.malformed .loneSurrogate) 0 rest
  | '\\' :: rest => stop (.malformed .endOfHexEscape) 1 rest
  | rest => stop (.malformed .endOfHexEscape) 1 rest

def escape : List Char → Except Failure (Char × List Char)
  | [] => stop (.malformed .endOfString) 0 []
  | 'u' :: rest => do
    let (unit, rest) ← codeUnit rest
    if isLowSurrogate unit then stop (.malformed .loneSurrogate) 0 rest
    else if isHighSurrogate unit then secondHalf unit rest
    else return (Char.ofNat unit, rest)
  | c :: rest =>
    match shortEscape? c with
    | some e => .ok (e, rest)
    | none => stop (.malformed .invalidEscape) 1 (c :: rest)

/-- An escape in a skipped string: surrogates need no partner. -/
def looseEscape : List Char → Except Failure (Char × List Char)
  | 'u' :: rest => do
    let (_, rest) ← codeUnit rest
    return ('u', rest)
  | rest => escape rest

/-- The characters up to the closing quote. Every round consumes a character. -/
def characters (escape : List Char → Except Failure (Char × List Char)) (controlWidth : Nat) :
    (rounds : Nat) → List Char → List Char → Except Failure (String × List Char)
  | 0, _, _ => stop (.malformed .endOfString) 0 []
  | _, _, [] => stop (.malformed .endOfString) 0 []
  | rounds + 1, read, c :: rest =>
    if c = '"' then .ok (String.ofList read.reverse, rest)
    else if c = '\\' then do
      let (e, rest) ← escape rest
      characters escape controlWidth rounds (e :: read) rest
    else if c.toNat < 0x20 then stop (.malformed .controlCharacter) controlWidth (c :: rest)
    else characters escape controlWidth rounds (c :: read) rest

def string : Reader String :=
  fun size rest => characters escape 1 (size + 1) [] rest

/-! ### Skipped values -/

def skipString : Reader Unit := do
  let _ ← fun size rest => characters looseEscape 0 (size + 1) [] rest

def skipExponent : Reader Unit := do
  match ← get with
  | '+' :: rest => set rest
  | '-' :: rest => set rest
  | _ => pure ()
  if (← digits).isEmpty then failAt .invalidNumber

def skipNumber : Reader Unit := do
  match ← digits with
  | [] => failAt .invalidNumber
  | '0' :: _ :: more => fun _ rest => stop (.malformed .invalidNumber) 0 (more ++ rest)
  | _ => pure ()
  match ← get with
  | '.' :: rest =>
    set rest
    if (← digits).isEmpty then failAt .invalidNumber
    match ← get with
    | c :: rest =>
      if c = 'e' ∨ c = 'E' then
        set rest
        skipExponent
    | [] => pure ()
  | c :: rest =>
    if c = 'e' ∨ c = 'E' then
      set rest
      skipExponent
  | [] => pure ()

inductive Bracket where
  | list
  | object
  deriving DecidableEq

def Bracket.closing : Bracket → Char
  | .list => ']'
  | .object => '\x7d'

def Bracket.atEnd : Bracket → SyntaxFault
  | .list => .endOfList
  | .object => .endOfObject

def Bracket.atOther : Bracket → SyntaxFault
  | .list => .expectedCommaOrBracket
  | .object => .expectedCommaOrBrace

inductive Next where
  | value
  | first (bracket : Bracket)
  | key
  | separator

def Bracket.content : Bracket → Next
  | .list => .value
  | .object => .key

/-- One step through a skipped value: the next expectation and the brackets still open. -/
def skipStep (next : Next) (opened : List Bracket) : Reader (Next × List Bracket) := do
  match next with
  | .value =>
    match ← peek with
    | none => failAt .endOfValue
    | some 'n' => skip; ident "ull".toList; return (.separator, opened)
    | some 't' => skip; ident "rue".toList; return (.separator, opened)
    | some 'f' => skip; ident "alse".toList; return (.separator, opened)
    | some '"' => skip; skipString; return (.separator, opened)
    | some '-' => skip; skipNumber; return (.separator, opened)
    | some '[' => skip; return (.first .list, .list :: opened)
    | some '\x7b' => skip; return (.first .object, .object :: opened)
    | some c =>
      if c.isDigit then
        skipNumber
        return (.separator, opened)
      else failAt .expectedValue
  | .first bracket =>
    match ← peek with
    | none => failAt bracket.atEnd
    | some c =>
      if c = bracket.closing then
        skip
        return (.separator, opened.tail)
      else return (bracket.content, opened)
  | .key =>
    match ← peek with
    | none => failAt .endOfObject
    | some '"' =>
      skip
      skipString
      match ← peek with
      | none => failAt .endOfObject
      | some ':' => skip; return (.value, opened)
      | some _ => failAt .expectedColon
    | some _ => failAt .keyNotString
  | .separator =>
    match opened with
    | [] => return (.separator, [])
    | bracket :: outer =>
      match ← peek with
      | none => failAt bracket.atEnd
      | some ',' => skip; return (bracket.content, opened)
      | some c =>
        if c = bracket.closing then
          skip
          return (.separator, outer)
        else failAt bracket.atOther

/-- Steps until no bracket is open. Two steps consume at least one character. -/
def skipSteps : (rounds : Nat) → Next → List Bracket → Reader Unit
  | 0, _, _ => return ()
  | rounds + 1, next, opened => do
    match ← skipStep next opened with
    | (.separator, []) => return ()
    | (next, opened) => skipSteps rounds next opened

def skipValue : Reader Unit := do
  skipSteps (2 * (← read) + 2) .value []

/-! ### Values of a form -/

/-- Report that a value is not what was wanted. Scalars are consumed, containers are not. -/
def unwanted (wanted : Wanted) : Reader Value := do
  let found ←
    match ← peek with
    | some 'n' => skip; ident "ull".toList; pure Found.null
    | some 't' => skip; ident "rue".toList; pure (.boolean true)
    | some 'f' => skip; ident "alse".toList; pure (.boolean false)
    | some '-' => skip; pure (.ofNumber (← number true))
    | some '"' => skip; pure (.text (← string))
    | some '[' => pure .sequence
    | some '\x7b' => pure .map
    | some c => if c.isDigit then pure (.ofNumber (← number false)) else failAt .expectedValue
    | none => failAt .expectedValue
  mismatch (.wrongType found wanted)

def moreItems (first : Bool) : Reader Bool := do
  match ← peek with
  | none => failAt .endOfList
  | some ']' => return false
  | some c =>
    if first then return true
    else if c = ',' then
      skip
      match ← peek with
      | none => failAt .endOfValue
      | some ']' => failAt .trailingComma
      | some _ => return true
    else failAt .expectedCommaOrBracket

def items (element : Reader Value) : (rounds : Nat) → List Value → Reader (List Value)
  | 0, _ => fail .endOfList
  | rounds + 1, read => do
    if ← moreItems read.isEmpty then items element rounds ((← element) :: read)
    else
      skip
      return read.reverse

/-- The fields of a record written as a list. Trailing fields may be left out, unless required. -/
def tuple (value : FieldForm → Reader Value) (kind : Record) :
    List FieldForm → List Value → Reader (List Value)
  | [], read => do
    match ← peek with
    | some ']' => skip; return read.reverse
    | some ',' =>
      skip
      match ← peek with
      | some ']' => failAt .trailingComma
      | _ => failAt .trailingCharacters
    | some _ => failAt .trailingCharacters
    | none => failAt .endOfList
  | field :: fields, read => do
    if ← moreItems read.isEmpty then tuple value kind fields ((← value field) :: read)
    else
      skip
      if field.required then mismatch (.tooShort read.length kind)
      else return read.reverse

def moreMembers (first : Bool) : Reader Bool := do
  match ← peek with
  | none => failAt .endOfObject
  | some '\x7d' => return false
  | some c =>
    if first then
      if c = '"' then return true else failAt .keyNotString
    else if c = ',' then
      skip
      match ← peek with
      | none => failAt .endOfValue
      | some '"' => return true
      | some '\x7d' => failAt .trailingComma
      | some _ => failAt .keyNotString
    else failAt .expectedCommaOrBrace

def colon : Reader Unit := do
  match ← peek with
  | none => failAt .endOfObject
  | some ':' => skip
  | some _ => failAt .expectedColon

/-- The members of a free object; the last of equal keys counts. -/
def members (value : Reader Value) : (rounds : Nat) → (first : Bool) → Members → Reader Members
  | 0, _, _ => fail .endOfObject
  | rounds + 1, first, read => do
    if ← moreMembers first then
      skip
      let key ← string
      colon
      members value rounds false (Members.insert key (← value) read)
    else
      skip
      return read

/-- The declared members of a record; a field may be given once, and required ones must be. -/
def fields (value : FieldForm → Reader Value) (kind : Record) :
    (rounds : Nat) → (first : Bool) → Members → Reader Members
  | 0, _, _ => fail .endOfObject
  | rounds + 1, first, read => do
    if ← moreMembers first then
      skip
      let key ← string
      match kind.field? key with
      | none =>
        colon
        skipValue
        fields value kind rounds false read
      | some field =>
        if (read.lookup key).isSome then
          if (← peek) = some '\x7d' then skip
          mismatch (.repeated key)
        else
          colon
          fields value kind rounds false ((key, ← value field) :: read)
    else
      skip
      match kind.firstMissing? (read.map (·.1)) with
      | some name => mismatch (.missing name)
      | none => return read.reverse

def orNull (nullable : Bool) (value : Reader Value) : Reader Value := do
  if nullable && (← peek) == some 'n' then
    skip
    ident "ull".toList
    return .null
  else value

/-- A value of the given form, with room for `depth` more brackets. -/
def value : (depth : Nat) → Form → Reader Value
  | 0, form => do
    match form, ← peek with
    | .anything, some '[' => failAt .tooDeep
    | .anything, some '\x7b' => failAt .tooDeep
    | .list _, some '[' => failAt .tooDeep
    | .record _, some '[' => failAt .tooDeep
    | .record _, some '\x7b' => failAt .tooDeep
    | _, _ => scalar form
  | depth + 1, form => do
    let rounds := (← read) + 1
    let ofField (field : FieldForm) := orNull field.nullable (value depth field.form)
    match form, ← peek with
    | .anything, some '[' => skip; return .array (← items (value depth .anything) rounds [])
    | .anything, some '\x7b' =>
      skip
      return .object (← members (value depth .anything) rounds true [])
    | .list element, some '[' => skip; return .array (← items (value depth element) rounds [])
    | .record kind, some '[' => skip; return .array (← tuple ofField kind kind.fields [])
    | .record kind, some '\x7b' => skip; return .object (← fields ofField kind rounds true [])
    | _, _ => scalar form
where
  scalar (form : Form) : Reader Value := do
    match form, ← peek with
    | _, none => failAt .endOfValue
    | .text, some '"' => skip; return .string (← string)
    | .flag, some 't' => skip; ident "rue".toList; return .boolean true
    | .flag, some 'f' => skip; ident "alse".toList; return .boolean false
    | .anything, some 'n' => skip; ident "ull".toList; return .null
    | .anything, some 't' => skip; ident "rue".toList; return .boolean true
    | .anything, some 'f' => skip; ident "alse".toList; return .boolean false
    | .anything, some '-' => skip; return .number (← number true)
    | .anything, some '"' => skip; return .string (← string)
    | .anything, some c =>
      if c.isDigit then return .number (← number false) else failAt .expectedValue
    | form, some _ => unwanted form.wanted

def document (depth : Nat) (form : Form) : Reader Value := do
  let v ← value depth form
  match ← peek with
  | some _ => failAt .trailingCharacters
  | none => return v

end Reader

/-- The number of brackets that may enclose a value. -/
def maxDepth : Nat := 127

def readWithin (depth : Nat) (form : Form) (text : String) : Except Error Value :=
  let characters := text.toList
  match ((Reader.document depth form).run characters.length).run characters with
  | .ok (value, _) => .ok value
  | .error failure => .error (failure.locate text)

def readAs (form : Form) (text : String) : Except Error Value :=
  readWithin maxDepth form text

def parse (text : String) : Except Error Value :=
  readAs .anything text

end ComponentSchema.Json
