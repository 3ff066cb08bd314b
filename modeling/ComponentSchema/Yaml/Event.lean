import ComponentSchema.Yaml.Token.Reading

/-!
The events of a YAML stream: starts and ends of documents and collections, scalars and aliases.

`Event.ofTokens` follows the grammar with a stack of the places it comes back to, and returns the
events up to the first fault.
-/

set_option autoImplicit false

namespace ComponentSchema.Yaml

structure Properties where
  anchor : Option String := none
  tag : Option String := none
  deriving Inhabited

inductive Event where
  | documentStart
  | documentEnd
  | alias (name : String)
  | scalar (properties : Properties) (text : String) (style : ScalarStyle)
  | sequenceStart (properties : Properties)
  | sequenceEnd
  | mappingStart (properties : Properties)
  | mappingEnd
  deriving Inhabited

inductive Place where
  | firstDocument
  | document
  | documentContent
  | documentEnd
  | blockNode
  | blockSequence (first : Bool)
  | indentlessSequence
  | blockMapping (first : Bool)
  | blockMappingValue
  | flowSequence (first : Bool)
  | flowPairKey
  | flowPairValue
  | flowPairEnd
  | flowMapping (first : Bool)
  | flowMappingValue
  | flowMappingNoValue
  deriving DecidableEq

/-- The state of reading: the tokens ahead, the fault they end in, the places to come back to from
the innermost, the starts of the open collections, and the scopes of the tag handles. -/
structure Progress where
  ahead : List Lexeme
  fault : Option SyntaxFault
  places : List Place
  starts : List Mark := []
  handles : List (String × String) := []

abbrev Grammar := StateT Progress (Except SyntaxFault)

namespace Grammar

/-- The next token. Where the tokens end in a fault, reading ends in it too. -/
def peek : Grammar Lexeme := do
  let s ← get
  match s.ahead, s.fault with
  | lexeme :: _, _ => return lexeme
  | [], some fault => throw fault
  | [], none => return ⟨.streamEnd, {}, {}⟩

def skip : Grammar Unit :=
  modify fun s => { s with ahead := s.ahead.tail }

def goTo (place : Place) : Grammar Unit :=
  modify fun s => { s with places := place :: s.places.tail }

def leave : Grammar Unit :=
  modify fun s => { s with places := s.places.tail }

def thenAt (place : Place) : Grammar Unit :=
  modify fun s => { s with places := place :: place :: s.places.tail }

def openAt (mark : Mark) : Grammar Unit :=
  modify fun s => { s with starts := mark :: s.starts }

def closeStart : Grammar Unit :=
  modify fun s => { s with starts := s.starts.tail }

def faultIn {α : Type} (activity : Activity) (problem : Problem) (lexeme : Lexeme) : Grammar α := do
  let start := (← get).starts.head?.getD {}
  throw { problem, mark := lexeme.start, during := some (activity, start) }

def emptyScalar (mark : Mark) : Event × Mark :=
  (.scalar {} "" .plain, mark)

def resolveTag (handle suffix : String) (start mark : Mark) : Grammar String := do
  if handle.isEmpty then return suffix
  match (← get).handles.lookup handle with
  | some scope => return scope ++ suffix
  | none => throw { problem := .tagHandle, mark, during := some (.node, start) }

def properties : Grammar (Properties × Option Mark) := do
  let anchor? : Grammar (Option (String × Mark)) := do
    match ← peek with
    | ⟨.anchor name, mark, _⟩ => skip; return some (name, mark)
    | _ => return none
  let tag? : Grammar (Option (String × String × Mark)) := do
    match ← peek with
    | ⟨.tag handle suffix, mark, _⟩ => skip; return some (handle, suffix, mark)
    | _ => return none
  let first ← anchor?
  let tag ← tag?
  let anchor ← if first.isNone && tag.isSome then anchor? else pure first
  let start := match first, tag with
    | some (_, mark), _ => some mark
    | none, some (_, _, mark) => some mark
    | none, none => none
  let resolved ← match tag with
    | some (handle, suffix, mark) => some <$> resolveTag handle suffix (start.getD mark) mark
    | none => pure none
  return ({ anchor := anchor.map (·.1), tag := resolved }, start)

/-- A node. In a block mapping, a sequence may stand at the indentation of its key. -/
def node (block indentless : Bool) : Grammar (Event × Mark) := do
  if let ⟨.alias name, start, _⟩ ← peek then
    leave
    skip
    return (.alias name, start)
  let (properties, start) ← properties
  let lexeme ← peek
  let start := start.getD lexeme.start
  match lexeme.token, block with
  | .scalar text style, _ =>
    leave
    skip
    -- the tag of a lone bang says no more than no tag
    let properties :=
      if properties.tag = some "!" then { properties with tag := none } else properties
    return (.scalar properties text style, start)
  | .flowSequenceStart, _ =>
    goTo (.flowSequence true)
    return (.sequenceStart properties, start)
  | .flowMappingStart, _ =>
    goTo (.flowMapping true)
    return (.mappingStart properties, start)
  | .blockSequenceStart, true =>
    goTo (.blockSequence true)
    return (.sequenceStart properties, start)
  | .blockMappingStart, true =>
    goTo (.blockMapping true)
    return (.mappingStart properties, start)
  | token, _ =>
    if indentless && token = .blockEntry then
      goTo .indentlessSequence
      return (.sequenceStart properties, start)
    else if properties.anchor.isSome || properties.tag.isSome then
      leave
      return (.scalar properties "" .plain, start)
    else
      throw {
        problem := .nodeContent
        mark := lexeme.start
        during := some (if block then .blockNode else .flowNode, start) }

def standardHandles : List (String × String) :=
  [("!", "!"), ("!!", "tag:yaml.org,2002:")]

/-- The directives in front of a document. The rounds are bounded by the tokens ahead. -/
def directives : (rounds : Nat) → (versioned : Bool) → List (String × String) → Grammar Unit
  | 0, _, _ => return ()
  | rounds + 1, versioned, handles => do
    let lexeme ← peek
    match lexeme.token with
    | .versionDirective major minor =>
      if versioned then throw { problem := .versionTwice, mark := lexeme.start }
      if major ≠ 1 ∨ (minor ≠ 1 ∧ minor ≠ 2) then
        throw { problem := .version, mark := lexeme.start }
      skip
      directives rounds true handles
    | .tagDirective handle scope =>
      if (handles.lookup handle).isSome then throw { problem := .tagTwice, mark := lexeme.start }
      skip
      directives rounds versioned ((handle, scope) :: handles)
    | _ =>
      modify fun s => { s with handles := handles ++ standardHandles }

def extraEnds : (rounds : Nat) → Grammar Unit
  | 0 => return ()
  | rounds + 1 => do
    if (← peek).token = .documentEnd then
      skip
      extraEnds rounds

/-- The start of a document, or nothing at the end of the stream. Only the first document needs no
indicator. -/
def documentStart (first : Bool) : Grammar (Option (Event × Mark)) := do
  let rounds := (← get).ahead.length + 1
  unless first do extraEnds rounds
  let lexeme ← peek
  match lexeme.token with
  | .streamEnd => return none
  | .versionDirective .. | .tagDirective .. | .documentStart =>
    directives rounds false []
    let lexeme' ← peek
    if lexeme'.token ≠ .documentStart then
      throw { problem := .documentStart, mark := lexeme'.start }
    skip
    modify fun s => { s with places := .documentContent :: .documentEnd :: s.places.tail }
    return some (.documentStart, lexeme.start)
  | _ =>
    if first then
      directives rounds false []
      modify fun s => { s with places := .blockNode :: .documentEnd :: s.places.tail }
      return some (.documentStart, lexeme.start)
    else throw { problem := .documentStart, mark := lexeme.start }

def next : Grammar (Option (Event × Mark)) := do
  let place := (← get).places.headD .document
  match place with
  | .firstDocument => documentStart true
  | .document => documentStart false
  | .blockNode => some <$> node true false
  | .documentContent =>
    let lexeme ← peek
    match lexeme.token with
    | .versionDirective .. | .tagDirective .. | .documentStart | .documentEnd | .streamEnd =>
      leave
      return some (emptyScalar lexeme.start)
    | _ => some <$> node true false
  | .documentEnd =>
    let lexeme ← peek
    if lexeme.token = .documentEnd then skip
    goTo .document
    return some (.documentEnd, lexeme.start)
  | .blockSequence first =>
    if first then
      openAt (← peek).start
      skip
    let lexeme ← peek
    match lexeme.token with
    | .blockEntry =>
      skip
      match (← peek).token with
      | .blockEntry | .blockEnd =>
        goTo (.blockSequence false)
        return some (emptyScalar lexeme.stop)
      | _ =>
        thenAt (.blockSequence false)
        some <$> node true false
    | .blockEnd =>
      leave
      closeStart
      skip
      return some (.sequenceEnd, lexeme.start)
    | _ => faultIn .blockCollection .blockEntry lexeme
  | .indentlessSequence =>
    let lexeme ← peek
    match lexeme.token with
    | .blockEntry =>
      skip
      match (← peek).token with
      | .blockEntry | .key | .value | .blockEnd =>
        return some (emptyScalar lexeme.stop)
      | _ =>
        thenAt .indentlessSequence
        some <$> node true false
    | _ =>
      leave
      return some (.sequenceEnd, lexeme.start)
  | .blockMapping first =>
    if first then
      openAt (← peek).start
      skip
    let lexeme ← peek
    match lexeme.token with
    | .key =>
      skip
      match (← peek).token with
      | .key | .value | .blockEnd =>
        goTo .blockMappingValue
        return some (emptyScalar lexeme.stop)
      | _ =>
        thenAt .blockMappingValue
        some <$> node true true
    | .blockEnd =>
      leave
      closeStart
      skip
      return some (.mappingEnd, lexeme.start)
    | _ => faultIn .blockMapping .blockKey lexeme
  | .blockMappingValue =>
    let lexeme ← peek
    match lexeme.token with
    | .value =>
      skip
      match (← peek).token with
      | .key | .value | .blockEnd =>
        goTo (.blockMapping false)
        return some (emptyScalar lexeme.stop)
      | _ =>
        thenAt (.blockMapping false)
        some <$> node true true
    | _ =>
      goTo (.blockMapping false)
      return some (emptyScalar lexeme.start)
  | .flowSequence first =>
    if first then
      openAt (← peek).start
      skip
    if (← peek).token ≠ .flowSequenceEnd ∧ !first then
      let lexeme ← peek
      if lexeme.token ≠ .flowEntry then faultIn .flowSequence .flowSequenceEnd lexeme
      skip
    let lexeme ← peek
    match lexeme.token with
    | .flowSequenceEnd =>
      leave
      closeStart
      skip
      return some (.sequenceEnd, lexeme.start)
    | .key =>
      goTo .flowPairKey
      skip
      return some (.mappingStart {}, lexeme.start)
    | _ =>
      thenAt (.flowSequence false)
      some <$> node false false
  | .flowPairKey =>
    let lexeme ← peek
    match lexeme.token with
    | .value | .flowEntry | .flowSequenceEnd =>
      skip
      goTo .flowPairValue
      return some (emptyScalar lexeme.stop)
    | _ =>
      thenAt .flowPairValue
      some <$> node false false
  | .flowPairValue =>
    let valued := (← peek).token = .value
    if valued then skip
    let lexeme ← peek
    if !valued || lexeme.token = .flowEntry || lexeme.token = .flowSequenceEnd then
      goTo .flowPairEnd
      return some (emptyScalar lexeme.start)
    else
      thenAt .flowPairEnd
      some <$> node false false
  | .flowPairEnd =>
    goTo (.flowSequence false)
    return some (.mappingEnd, (← peek).start)
  | .flowMapping first =>
    if first then
      openAt (← peek).start
      skip
    if (← peek).token ≠ .flowMappingEnd ∧ !first then
      let lexeme ← peek
      if lexeme.token ≠ .flowEntry then faultIn .flowMapping .flowMappingEnd lexeme
      skip
    let lexeme ← peek
    match lexeme.token with
    | .flowMappingEnd =>
      leave
      closeStart
      skip
      return some (.mappingEnd, lexeme.start)
    | .key =>
      skip
      let lexeme ← peek
      match lexeme.token with
      | .value | .flowEntry | .flowMappingEnd =>
        goTo .flowMappingValue
        return some (emptyScalar lexeme.start)
      | _ =>
        thenAt .flowMappingValue
        some <$> node false false
    | _ =>
      thenAt .flowMappingNoValue
      some <$> node false false
  | .flowMappingNoValue =>
    goTo (.flowMapping false)
    return some (emptyScalar (← peek).start)
  | .flowMappingValue =>
    let valued := (← peek).token = .value
    if valued then skip
    let lexeme ← peek
    if !valued || lexeme.token = .flowEntry || lexeme.token = .flowMappingEnd then
      goTo (.flowMapping false)
      return some (emptyScalar lexeme.start)
    else
      thenAt (.flowMapping false)
      some <$> node false false

def events : (rounds : Nat) → Progress → List (Event × Mark) →
    List (Event × Mark) × Option SyntaxFault
  | 0, _, read => (read.reverse, none)
  | rounds + 1, progress, read =>
    match next.run progress with
    | .error fault => (read.reverse, some fault)
    | .ok (none, _) => (read.reverse, none)
    | .ok (some event, progress) => events rounds progress (event :: read)

end Grammar

/-- The events of a list of tokens up to the first fault, that of the tokens included. No token
makes more than four events. -/
def Event.ofTokens (tokens : List Lexeme × Option SyntaxFault) :
    List (Event × Mark) × Option SyntaxFault :=
  Grammar.events (4 * tokens.1.length + 4)
    { ahead := tokens.1, fault := tokens.2, places := [.firstDocument] } []

end ComponentSchema.Yaml
