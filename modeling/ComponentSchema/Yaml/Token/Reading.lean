import ComponentSchema.Yaml.Token

/-!
The tokens of a YAML text.

`Token.ofText` returns the tokens up to the first fault. In block context the indentation makes
tokens of its own: a line that starts further right than the enclosing block opens one, and a line
that starts further left closes it. A key without an indicator is only known at its colon, so the
place of every scalar, anchor, tag or flow collection that may turn out to be one is remembered.
-/

set_option autoImplicit false

namespace ComponentSchema.Yaml

/-- A place where a key may start; a required one must turn out to be a key. -/
structure PossibleKey where
  required : Bool
  place : Nat
  mark : Mark

/-- The state of reading: the text ahead and the size of the whole text, the tokens so far, the
columns of the enclosing blocks from the innermost, and for each enclosing flow collection, and the
block around, a possible key. -/
structure Scan where
  rest : List Char
  size : Nat
  mark : Mark := {}
  lexemes : Array Lexeme := #[]
  indent : Int := -1
  outer : List Int := []
  keys : List (Option PossibleKey) := [none]
  keyAllowed : Bool := true

/-- A scanner; the state survives a fault. -/
abbrev Scanner := ExceptT SyntaxFault (StateM Scan)

namespace Scanner

/-! ### Characters -/

def fault {α : Type} (problem : Problem) (during : Option (Activity × Mark) := none) :
    Scanner α := do
  throw { problem, mark := (← get).mark, during }

def mark : Scanner Mark :=
  return (← get).mark

def peek : Scanner (Option Char) :=
  return (← get).rest.head?

def rounds : Scanner Nat :=
  return (← get).size + 1

def advance : Scanner Unit :=
  modify fun s => { s with
    rest := s.rest.tail
    mark := { s.mark with index := s.mark.index + 1, column := s.mark.column + 1 } }

def span (p : Char → Bool) : Scanner (List Char) := do
  let s ← get
  let run := s.rest.takeWhile p
  set { s with
    rest := s.rest.dropWhile p
    mark := { s.mark with
      index := s.mark.index + run.length, column := s.mark.column + run.length } }
  return run

/-- Consume one line break, if there is one. The separators of lines and paragraphs are kept, all
other breaks are read as a line feed. -/
def lineBreak : Scanner (List Char) := do
  let s ← get
  let next (mark : Mark) (n : Nat) : Mark := { index := mark.index + n, line := mark.line + 1 }
  match s.rest with
  | '\r' :: '\n' :: rest =>
    set { s with rest, mark := next s.mark 2 }
    return ['\n']
  | c :: rest =>
    if isBreak c then
      set { s with rest, mark := next s.mark 1 }
      return [if c == '\u2028' || c == '\u2029' then c else '\n']
    else return []
  | [] => return []

def isBlankAt (n : Nat) (rest : List Char) : Bool :=
  rest[n]?.any isBlank

def endsAt (n : Nat) (rest : List Char) : Bool :=
  rest[n]?.all fun c => isBlank c || isBreak c

def atLineEnd : Scanner Bool :=
  return (← peek).all isBreak

def atWordEnd : Scanner Bool :=
  return endsAt 0 (← get).rest

def isIndicator (c : Char) (rest : List Char) : Bool :=
  rest.take 3 == [c, c, c] && endsAt 3 rest

def atDocumentIndicator : Scanner Bool := do
  let s ← get
  return s.mark.column == 0 && (isIndicator '-' s.rest || isIndicator '.' s.rest)

def comment : Scanner Unit := do
  if (← peek) = some '#' then
    let _ ← span (!isBreak ·)

/-! ### Blocks and possible keys -/

def inFlow : Scanner Bool :=
  return 1 < (← get).keys.length

def push (token : Token) (start stop : Mark) : Scanner Unit :=
  modify fun s => { s with lexemes := s.lexemes.push ⟨token, start, stop⟩ }

def insertAt (place : Nat) (token : Token) (mark : Mark) : Scanner Unit :=
  modify fun s => { s with lexemes := s.lexemes.insertIdxIfInBounds place ⟨token, mark, mark⟩ }

def allowKey (allowed : Bool) : Scanner Unit :=
  modify fun s => { s with keyAllowed := allowed }

/-- Open a block at a column, unless one that far right is open already. -/
def openBlock (column : Nat) (place : Nat) (token : Token) (mark : Mark) : Scanner Unit := do
  let s ← get
  if !(← inFlow) && s.indent < column then
    set { s with indent := column, outer := s.indent :: s.outer }
    insertAt place token mark

/-- Close the blocks further right than a column, which are among those enclosing. -/
def closeBlocks (column : Int) : Scanner Unit := do
  unless ← inFlow do
    let s ← get
    let columns := s.indent :: s.outer
    let closed := columns.takeWhile (column < ·)
    let left := columns.dropWhile (column < ·)
    set { s with indent := left.headD (-1), outer := left.tail }
    for _ in closed do
      push .blockEnd s.mark s.mark

def dropKey : Scanner Unit := do
  let s ← get
  match s.keys with
  | some key :: outer =>
    if key.required then fault .noColon (some (.simpleKey, key.mark))
    set { s with keys := none :: outer }
  | _ => pure ()

def saveKey : Scanner Unit := do
  let s ← get
  if s.keyAllowed then
    let required := !(← inFlow) && s.indent == s.mark.column
    dropKey
    modify fun s => { s with
      keys := some { required, place := s.lexemes.size, mark := s.mark } :: s.keys.tail }

/-- A key without an indicator stays within a line and 1024 characters; give up those that do
not. -/
def dropStaleKeys : Scanner Unit := do
  let s ← get
  let isStale (key : PossibleKey) : Bool :=
    key.mark.line < s.mark.line || key.mark.index + 1024 < s.mark.index
  match s.keys.reverse.findSome? (Option.filter fun key => isStale key && key.required) with
  | some key => fault .noColon (some (.simpleKey, key.mark))
  | none => set { s with keys := s.keys.map (Option.filter (!isStale ·)) }

/-! ### Directives, anchors and tags -/

def versionNumber (start : Mark) : Scanner Nat := do
  let run ← span Char.isDigit
  if run.isEmpty then fault .versionNumber (some (.versionDirective, start))
  else if 9 < run.length then fault .longVersionNumber (some (.versionDirective, start))
  else return run.foldl (fun n c => n * 10 + (c.toNat - '0'.toNat)) 0

def octet? : List Char → Option (Nat × List Char)
  | '%' :: a :: b :: rest =>
    match value? a, value? b with
    | some a, some b => some (a * 16 + b, rest)
    | _, _ => none
  | _ => none
where
  value? (c : Char) : Option Nat :=
    if c.isDigit then some (c.toNat - '0'.toNat)
    else if 'a' ≤ c ∧ c ≤ 'f' then some (c.toNat - 'a'.toNat + 10)
    else if 'A' ≤ c ∧ c ≤ 'F' then some (c.toNat - 'A'.toNat + 10)
    else none

def octets : (rounds : Nat) → List Char → List UInt8
  | 0, _ => []
  | rounds + 1, text =>
    match octet? text with
    | some (n, rest) => UInt8.ofNat n :: octets rounds rest
    | none => []

def octetCount (first : UInt8) : Nat :=
  if first &&& 0x80 = 0 then 1
  else if first &&& 0xE0 = 0xC0 then 2
  else if first &&& 0xF0 = 0xE0 then 3
  else if first &&& 0xF8 = 0xF0 then 4
  else 0

def uriEscape (activity : Activity) (start : Mark) : Scanner (List Char) := do
  let found := octets 4 (← get).rest
  let count := (found.head?.map octetCount).getD 0
  match String.fromUTF8? ⟨(found.take count).toArray⟩ with
  | some text =>
    if text.isEmpty then fault .uriEscape (some (activity, start))
    for _ in [0:3 * count] do advance
    return text.toList
  | none => fault .uriEscape (some (activity, start))

def uriChars (verbatim : Bool) (activity : Activity) (start : Mark) :
    (rounds : Nat) → List Char → Scanner (List Char)
  | 0, read => return read
  | rounds + 1, read => do
    let plain ← span fun c => isUriChar verbatim c && c != '%'
    if (← peek) = some '%' then
      let escaped ← uriEscape activity start
      uriChars verbatim activity start rounds (read ++ plain ++ escaped)
    else return read ++ plain

/-- A tag suffix, of which a first part may have been read. -/
def tagUri (verbatim directive : Bool) (head : List Char) (start : Mark) : Scanner String := do
  let activity := if directive then Activity.tagDirectiveScope else .tagSuffix
  let uri ← uriChars verbatim activity start (← rounds) []
  if head.isEmpty && uri.isEmpty then fault .tagUri (some (activity, start))
  return String.ofList (head.tail ++ uri)

def tagHandle (directive : Bool) (start : Mark) : Scanner (List Char) := do
  let activity := if directive then Activity.tagDirectiveHandle else .tag
  if (← peek) ≠ some '!' then fault .bang (some (activity, start))
  advance
  let name ← span isNameChar
  if (← peek) = some '!' then
    advance
    return '!' :: name ++ ['!']
  else if directive && !name.isEmpty then fault .bang (some (.tagDirectiveHandle, start))
  else return '!' :: name

def directive (start : Mark) : Scanner Token := do
  let name ← span isNameChar
  if name.isEmpty then fault .directiveName (some (.directive, start))
  unless ← atWordEnd do fault .directiveNameEnd (some (.directive, start))
  let token ←
    if name = "YAML".toList then
      let _ ← span isBlank
      let major ← versionNumber start
      if (← peek) ≠ some '.' then fault .versionPoint (some (.versionDirective, start))
      advance
      pure (Token.versionDirective major (← versionNumber start))
    else if name = "TAG".toList then
      let _ ← span isBlank
      let handle ← tagHandle true start
      unless isBlankAt 0 (← get).rest do fault .blank (some (.tagDirective, start))
      let _ ← span isBlank
      let scope ← tagUri true true [] start
      unless ← atWordEnd do fault .blankOrLineEnd (some (.tagDirective, start))
      pure (.tagDirective (String.ofList handle) scope)
    else fault .unknownDirective (some (.directive, start))
  let stop ← mark
  let _ ← span isBlank
  comment
  unless ← atLineEnd do fault .lineEnd (some (.directive, start))
  let _ ← lineBreak
  push token start stop
  return token

def anchorName (activity : Activity) (start : Mark) : Scanner String := do
  let name ← span isNameChar
  let ends := (← atWordEnd) || (← peek).any fun c => "?:,]\x7d%@".toList.contains c || c = '\x60'
  if name.isEmpty || !ends then fault .anchorName (some (activity, start))
  return String.ofList name

def tag (start : Mark) : Scanner Token := do
  let token ←
    if (← get).rest[1]? = some '<' then
      advance
      advance
      let suffix ← tagUri true false [] start
      if (← peek) ≠ some '>' then fault .angle (some (.tag, start))
      advance
      pure (Token.tag "" suffix)
    else
      let handle ← tagHandle false start
      if 1 < handle.length && handle.getLast? = some '!' then
        pure (.tag (String.ofList handle) (← tagUri false false [] start))
      else
        let suffix ← tagUri false false handle start
        pure (if suffix.isEmpty then .tag "" "!" else .tag "!" suffix)
  unless (← inFlow) && (← peek) = some ',' do
    unless ← atWordEnd do fault .blankOrLineEnd (some (.tag, start))
  return token

/-! ### Scalars -/

structure Gap where
  blanks : List Char := []
  first : List Char := []
  further : List Char := []
  broken : Bool := false

/-- What a gap is read as: a single line feed folds into a space, several lose the first. -/
def Gap.text (g : Gap) : List Char :=
  if !g.broken then g.blanks
  else if g.first = ['\n'] then if g.further.isEmpty then [' '] else g.further
  else g.first ++ g.further

/-- Read a gap. In a plain scalar a tab must not stand where the indentation is. -/
def gap (plain : Option (Nat × Mark)) : (rounds : Nat) → Gap → Scanner Gap
  | 0, g => return g
  | rounds + 1, g => do
    match ← peek with
    | none => return g
    | some c =>
      if isBlank c then
        if let some (indent, start) := plain then
          if g.broken && (← mark).column < indent && c = '\t' then
            fault .plainTab (some (.plainScalar, start))
        advance
        gap plain rounds (if g.broken then g else { g with blanks := g.blanks ++ [c] })
      else if isBreak c then
        let ending ← lineBreak
        gap plain rounds
          (if g.broken then { g with further := g.further ++ ending }
          else { g with blanks := [], first := ending, broken := true })
      else return g

def hexValue? (c : Char) : Option Nat :=
  octet?.value? c

def escapeMeaning? : Char → Option (Char ⊕ Nat)
  | '0' => some (.inl '\x00')
  | 'a' => some (.inl '\x07')
  | 'b' => some (.inl '\x08')
  | 't' => some (.inl '\t')
  | '\t' => some (.inl '\t')
  | 'n' => some (.inl '\n')
  | 'v' => some (.inl '\x0b')
  | 'f' => some (.inl '\x0c')
  | 'r' => some (.inl '\r')
  | 'e' => some (.inl '\x1b')
  | ' ' => some (.inl ' ')
  | '"' => some (.inl '"')
  | '/' => some (.inl '/')
  | '\\' => some (.inl '\\')
  | 'N' => some (.inl '\x85')
  | '_' => some (.inl '\xa0')
  | 'L' => some (.inl '\u2028')
  | 'P' => some (.inl '\u2029')
  | 'x' => some (.inr 2)
  | 'u' => some (.inr 4)
  | 'U' => some (.inr 8)
  | _ => none

def escape (start : Mark) : Scanner Char := do
  match (← get).rest[1]?.bind escapeMeaning? with
  | none => fault .unknownEscape (some (.escape, start))
  | some (.inl c) =>
    advance
    advance
    return c
  | some (.inr count) =>
    advance
    advance
    let digits := ((← get).rest.take count).filterMap hexValue?
    if digits.length ≠ count then fault .escapeDigits (some (.escape, start))
    let code := digits.foldl (fun n d => n * 16 + d) 0
    if (0xD800 ≤ code ∧ code ≤ 0xDFFF) ∨ 0x10FFFF < code then
      fault .escapeCode (some (.escape, start))
    for _ in [0:count] do advance
    return Char.ofNat code

/-- The characters of a quoted scalar up to its quote or a gap. The result tells whether an escaped
line break ended them. -/
def quotedWord (single : Bool) (start : Mark) :
    (rounds : Nat) → List Char → Scanner (List Char × Bool)
  | 0, read => return (read, false)
  | rounds + 1, read => do
    let rest := (← get).rest
    if endsAt 0 rest then return (read, false)
    match single, rest with
    | true, '\x27' :: '\x27' :: _ =>
      advance
      advance
      quotedWord single start rounds ('\x27' :: read)
    | true, '\x27' :: _ => return (read, false)
    | false, '"' :: _ => return (read, false)
    | false, '\\' :: c :: _ =>
      if isBreak c then
        advance
        let _ ← lineBreak
        return (read, true)
      else
        let e ← escape start
        quotedWord single start rounds (e :: read)
    | false, '\\' :: [] => fault .unknownEscape (some (.escape, start))
    | _, c :: _ =>
      advance
      quotedWord single start rounds (c :: read)
    | _, [] => return (read, false)

def quotedText (single : Bool) (start : Mark) :
    (rounds : Nat) → List Char → Scanner (List Char)
  | 0, read => return read
  | rounds + 1, read => do
    if ← atDocumentIndicator then fault .documentIndicator (some (.quotedScalar, start))
    if (← peek).isNone then fault .endOfStream (some (.quotedScalar, start))
    let (read, joined) ← quotedWord single start (← Scanner.rounds) read
    if (← peek) = some (if single then '\x27' else '"') then return read
    let g ← gap none (← Scanner.rounds) { broken := joined }
    quotedText single start rounds (g.text.reverse ++ read)

def quoted (single : Bool) : Scanner Unit := do
  let start ← mark
  advance
  let read ← quotedText single start (← rounds) []
  advance
  let style := if single then ScalarStyle.singleQuoted else .doubleQuoted
  push (.scalar (String.ofList read.reverse) style) start (← mark)

def endsPlain (flow : Bool) (rest : List Char) : Bool :=
  match rest with
  | [] => true
  | c :: _ =>
    isBlank c || isBreak c || (c = ':' && endsAt 1 rest) ||
      (flow && ",[]\x7b\x7d".toList.contains c)

def plainWord (flow : Bool) (start : Mark) : (rounds : Nat) → List Char → Scanner (List Char)
  | 0, read => return read
  | rounds + 1, read => do
    let rest := (← get).rest
    if flow && rest.head? = some ':' && rest[1]?.any ",?[]\x7b\x7d".toList.contains then
      fault .flowColon (some (.plainScalar, start))
    match endsPlain flow rest, rest with
    | false, c :: _ =>
      advance
      plainWord flow start rounds (c :: read)
    | _, _ => return read

def plainText (flow : Bool) (indent : Nat) (start : Mark) :
    (rounds : Nat) → List Char → Gap → Mark → Scanner (List Char × Gap × Mark)
  | 0, read, g, stop => return (read, g, stop)
  | rounds + 1, read, g, stop => do
    if (← atDocumentIndicator) || (← peek) = some '#' then return (read, g, stop)
    let word ← plainWord flow start (← Scanner.rounds) []
    let here ← mark
    let (read, g, stop) :=
      if word.isEmpty then (read, g, stop)
      else (word ++ (g.text.reverse ++ read), ({} : Gap), here)
    if (← peek).isNone || !(← atWordEnd) then return (read, g, stop)
    let g ← gap (some (indent, start)) (← Scanner.rounds) g
    if !flow && (← mark).column < indent then return (read, g, stop)
    plainText flow indent start rounds read g stop

def plain : Scanner Unit := do
  let s ← get
  let (read, g, stop) ← plainText (← inFlow) (s.indent + 1).toNat s.mark (← rounds) [] {} s.mark
  push (.scalar (String.ofList read.reverse) .plain) s.mark stop
  if g.broken then allowKey true

inductive Chomping where
  | strip
  | clip
  | keep
  deriving DecidableEq

def blockHeader (start : Mark) : Scanner (Chomping × Option Nat) := do
  let chomping : Scanner (Option Chomping) := do
    match ← peek with
    | some '+' => advance; return some .keep
    | some '-' => advance; return some .strip
    | _ => return none
  let increment : Scanner (Option Nat) := do
    match ← peek with
    | some c =>
      if c = '0' then fault .zeroIndentation (some (.blockScalar, start))
      else if c.isDigit then
        advance
        return some (c.toNat - '0'.toNat)
      else return none
    | none => return none
  match ← chomping with
  | some c => return (c, ← increment)
  | none =>
    match ← increment with
    | some n => return ((← chomping).getD .clip, some n)
    | none => return (.clip, none)

/-- The empty lines before a line of a block scalar: their breaks, the position after the last one,
and the column of the rightmost indentation. -/
def emptyLines (indent : Option Nat) (start : Mark) :
    (rounds : Nat) → List Char → Mark → Nat → Scanner (List Char × Mark × Nat)
  | 0, read, stop, widest => return (read, stop, widest)
  | rounds + 1, read, stop, widest => do
    let s ← get
    let blanks := s.rest.takeWhile (· == ' ')
    let blanks := match indent with
      | some n => blanks.take (n - s.mark.column)
      | none => blanks
    for _ in blanks do advance
    let column := (← mark).column
    let widest := max widest column
    let isIndentation := indent.all (column < ·)
    if isIndentation && (← peek) = some '\t' then fault .tabIndentation (some (.blockScalar, start))
    match ← lineBreak with
    | [] => return (read, stop, widest)
    | ending => emptyLines indent start rounds (read ++ ending) (← mark) widest

/-- The lines of a block scalar. `ending` is the break of the line before, and `empty` the breaks of
the empty lines after it; `indented` tells whether the line before started with a blank. -/
def blockLines (literal : Bool) (indent : Nat) (start : Mark) :
    (rounds : Nat) → (read ending empty : List Char) → (indented : Bool) → Mark →
      Scanner (List Char × List Char × List Char × Mark)
  | 0, read, ending, empty, _, stop => return (read, ending, empty, stop)
  | rounds + 1, read, ending, empty, indented, stop => do
    if (← mark).column ≠ indent ∨ (← peek).isNone then return (read, ending, empty, stop)
    let blank := isBlankAt 0 (← get).rest
    let joint :=
      if !literal && ending = ['\n'] && !indented && !blank then
        if empty.isEmpty then [' '] else []
      else ending
    let line ← span (!isBreak ·)
    let ending ← lineBreak
    let (following, stop, _) ← emptyLines (some indent) start (← Scanner.rounds) [] (← mark) 0
    let read := line.reverse ++ (empty.reverse ++ (joint.reverse ++ read))
    blockLines literal indent start rounds read ending following blank stop

def block (literal : Bool) : Scanner Unit := do
  let start ← mark
  advance
  let (chomping, increment) ← blockHeader start
  let _ ← span isBlank
  comment
  unless ← atLineEnd do fault .lineEnd (some (.blockScalar, start))
  let _ ← lineBreak
  let parent := (← get).indent
  let given := increment.map fun n => (max parent 0).toNat + n
  let (empty, stop, widest) ← emptyLines given start (← rounds) [] (← mark) 0
  let indent := given.getD (max (max widest (parent + 1).toNat) 1)
  let (read, ending, empty, stop) ←
    blockLines literal indent start (← rounds) [] [] empty false stop
  let tail := match chomping with
    | .strip => []
    | .clip => ending
    | .keep => ending ++ empty
  let style := if literal then ScalarStyle.literal else .folded
  push (.scalar (String.ofList (read.reverse ++ tail)) style) start stop

/-! ### Tokens -/

/-- Skip blanks, comments and line breaks up to the next token. Tabs are skipped where no key may
start. -/
def toNextToken : (rounds : Nat) → Scanner Unit
  | 0 => return ()
  | rounds + 1 => do
    if (← mark).index = 0 && (← peek) = some '\ufeff' then advance
    let tabs := (← inFlow) || !(← get).keyAllowed
    let _ ← span fun c => c = ' ' || (tabs && c = '\t')
    comment
    match ← lineBreak with
    | [] => return ()
    | _ =>
      unless ← inFlow do allowKey true
      toNextToken rounds

def indicator (width : Nat) (token : Token) : Scanner Unit := do
  let start ← mark
  for _ in [0:width] do advance
  push token start (← mark)

def documentIndicator (token : Token) : Scanner Unit := do
  closeBlocks (-1)
  dropKey
  allowKey false
  indicator 3 token

def openFlow (token : Token) : Scanner Unit := do
  saveKey
  modify fun s => { s with keys := none :: s.keys }
  allowKey true
  indicator 1 token

def closeFlow (token : Token) : Scanner Unit := do
  dropKey
  modify fun s => { s with keys := if 1 < s.keys.length then s.keys.tail else s.keys }
  allowKey false
  indicator 1 token

def openBlockHere (token : Token) (problem : Problem) : Scanner Unit := do
  unless ← inFlow do
    let s ← get
    unless s.keyAllowed do fault problem
    openBlock s.mark.column s.lexemes.size token s.mark

def blockEntry : Scanner Unit := do
  openBlockHere .blockSequenceStart .blockEntryHere
  dropKey
  allowKey true
  indicator 1 .blockEntry

def keyIndicator : Scanner Unit := do
  openBlockHere .blockMappingStart .keyHere
  dropKey
  allowKey (!(← inFlow))
  indicator 1 .key

/-- A colon: the remembered place becomes a key, if there is one. -/
def valueIndicator : Scanner Unit := do
  match (← get).keys with
  | some key :: outer =>
    insertAt key.place .key key.mark
    openBlock key.mark.column key.place .blockMappingStart key.mark
    modify fun s => { s with keys := none :: outer }
    allowKey false
  | _ =>
    openBlockHere .blockMappingStart .valueHere
    allowKey (!(← inFlow))
  indicator 1 .value

def keyed (read : Scanner Unit) : Scanner Unit := do
  saveKey
  allowKey false
  read

def startsPlain (flow : Bool) (rest : List Char) : Bool :=
  match rest with
  | [] => false
  | c :: _ =>
    (c = '-' && !isBlankAt 1 rest) || (!flow && (c = '?' || c = ':') && !endsAt 1 rest) ||
      !(isBlank c || isBreak c || "-?:,[]\x7b\x7d#&*!|>'\"%@".toList.contains c || c = '\x60')

def next : Scanner Bool := do
  toNextToken (← rounds)
  dropStaleKeys
  closeBlocks (← mark).column
  let s ← get
  let flow ← inFlow
  let start := s.mark
  match s.rest with
  | [] =>
    if s.mark.column ≠ 0 then
      set { s with mark := { s.mark with line := s.mark.line + 1, column := 0 } }
    closeBlocks (-1)
    dropKey
    allowKey false
    indicator 0 .streamEnd
    return true
  | c :: _ =>
    let first := s.mark.column = 0
    if first && c = '%' then
      closeBlocks (-1)
      dropKey
      allowKey false
      advance
      let _ ← directive start
    else if first && isIndicator '-' s.rest then documentIndicator .documentStart
    else if first && isIndicator '.' s.rest then documentIndicator .documentEnd
    else if c = '[' then openFlow .flowSequenceStart
    else if c = '\x7b' then openFlow .flowMappingStart
    else if c = ']' then closeFlow .flowSequenceEnd
    else if c = '\x7d' then closeFlow .flowMappingEnd
    else if c = ',' then
      dropKey
      allowKey true
      indicator 1 .flowEntry
    else if c = '-' && endsAt 1 s.rest then blockEntry
    else if c = '?' && (flow || endsAt 1 s.rest) then keyIndicator
    else if c = ':' && (flow || endsAt 1 s.rest) then valueIndicator
    else if c = '*' then
      keyed do
        advance
        let name ← anchorName .alias start
        push (.alias name) start (← mark)
    else if c = '&' then
      keyed do
        advance
        let name ← anchorName .anchor start
        push (.anchor name) start (← mark)
    else if c = '!' then
      keyed do
        let token ← tag start
        push token start (← mark)
    else if (c = '|' || c = '>') && !flow then
      dropKey
      allowKey true
      block (c = '|')
    else if c = '\x27' || c = '"' then keyed (quoted (c = '\x27'))
    else if startsPlain flow s.rest then keyed plain
    else fault .noToken (some (.nextToken, start))
    return false

/-- Read tokens to the end. Every token but the last consumes a character. -/
def all : (rounds : Nat) → Scanner Unit
  | 0 => return ()
  | rounds + 1 => do
    unless ← next do all rounds

end Scanner

def firstForbidden? (offset : Nat) : List Char → Option Nat
  | [] => none
  | c :: rest => if isAllowed c then firstForbidden? (offset + c.utf8Size) rest else some offset

def Token.ofText (text : String) : List Lexeme × Option SyntaxFault :=
  match firstForbidden? 0 text.toList with
  | some offset => ([], some { problem := .controlCharacter, mark := { index := offset } })
  | none =>
    let chars := match text.toList with
      | '\ufeff' :: rest => rest
      | chars => chars
    let (outcome, scan) :=
      (Scanner.all (chars.length + 2)).run.run { rest := chars, size := chars.length }
    match outcome with
    | .ok _ => (scan.lexemes.toList, none)
    | .error fault => (scan.lexemes.toList, some fault)

end ComponentSchema.Yaml
