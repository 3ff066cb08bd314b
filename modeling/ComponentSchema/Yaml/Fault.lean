/-! Positions in YAML text and the reasons why a text is no YAML. -/

set_option autoImplicit false

namespace ComponentSchema.Yaml

/-- A position: characters before it, and its line and column, all from zero. -/
structure Mark where
  index : Nat := 0
  line : Nat := 0
  column : Nat := 0
  deriving DecidableEq, Inhabited

def Mark.isInside (m : Mark) : Bool :=
  m.line != 0 || m.column != 0

def Mark.text (m : Mark) : String :=
  "line " ++ toString (m.line + 1) ++ " column " ++ toString (m.column + 1)

inductive Activity where
  | nextToken
  | simpleKey
  | directive
  | versionDirective
  | tagDirective
  | tagDirectiveHandle
  | tagDirectiveScope
  | anchor
  | alias
  | tag
  | tagSuffix
  | blockScalar
  | quotedScalar
  | escape
  | plainScalar
  | node
  | blockNode
  | flowNode
  | blockCollection
  | blockMapping
  | flowSequence
  | flowMapping
  deriving DecidableEq

def Activity.phrase : Activity → String
  | .nextToken => "while scanning for the next token"
  | .simpleKey => "while scanning a simple key"
  | .directive => "while scanning a directive"
  | .versionDirective => "while scanning a %YAML directive"
  | .tagDirective => "while scanning a %TAG directive"
  | .tagDirectiveHandle => "while scanning a tag directive"
  | .tagDirectiveScope => "while parsing a %TAG directive"
  | .anchor => "while scanning an anchor"
  | .alias => "while scanning an alias"
  | .tag => "while scanning a tag"
  | .tagSuffix => "while parsing a tag"
  | .blockScalar => "while scanning a block scalar"
  | .quotedScalar => "while scanning a quoted scalar"
  | .escape => "while parsing a quoted scalar"
  | .plainScalar => "while scanning a plain scalar"
  | .node => "while parsing a node"
  | .blockNode => "while parsing a block node"
  | .flowNode => "while parsing a flow node"
  | .blockCollection => "while parsing a block collection"
  | .blockMapping => "while parsing a block mapping"
  | .flowSequence => "while parsing a flow sequence"
  | .flowMapping => "while parsing a flow mapping"

inductive Problem where
  | controlCharacter
  | noToken
  | noColon
  | blockEntryHere
  | keyHere
  | valueHere
  | directiveName
  | directiveNameEnd
  | unknownDirective
  | lineEnd
  | versionNumber
  | longVersionNumber
  | versionPoint
  | blank
  | blankOrLineEnd
  | bang
  | angle
  | tagUri
  | uriEscape
  | anchorName
  | zeroIndentation
  | tabIndentation
  | documentIndicator
  | endOfStream
  | unknownEscape
  | escapeDigits
  | escapeCode
  | flowColon
  | plainTab
  | documentStart
  | versionTwice
  | version
  | tagTwice
  | tagHandle
  | nodeContent
  | blockEntry
  | blockKey
  | flowSequenceEnd
  | flowMappingEnd
  deriving DecidableEq

def Problem.phrase : Problem → String
  | .controlCharacter => "control characters are not allowed"
  | .noToken => "found character that cannot start any token"
  | .noColon => "could not find expected ':'"
  | .blockEntryHere => "block sequence entries are not allowed in this context"
  | .keyHere => "mapping keys are not allowed in this context"
  | .valueHere => "mapping values are not allowed in this context"
  | .directiveName => "could not find expected directive name"
  | .directiveNameEnd => "found unexpected non-alphabetical character"
  | .unknownDirective => "found unknown directive name"
  | .lineEnd => "did not find expected comment or line break"
  | .versionNumber => "did not find expected version number"
  | .longVersionNumber => "found extremely long version number"
  | .versionPoint => "did not find expected digit or '.' character"
  | .blank => "did not find expected whitespace"
  | .blankOrLineEnd => "did not find expected whitespace or line break"
  | .bang => "did not find expected '!'"
  | .angle => "did not find the expected '>'"
  | .tagUri => "did not find expected tag URI"
  | .uriEscape => "did not find URI escaped octet"
  | .anchorName => "did not find expected alphabetic or numeric character"
  | .zeroIndentation => "found an indentation indicator equal to 0"
  | .tabIndentation => "found a tab character where an indentation space is expected"
  | .documentIndicator => "found unexpected document indicator"
  | .endOfStream => "found unexpected end of stream"
  | .unknownEscape => "found unknown escape character"
  | .escapeDigits => "did not find expected hexdecimal number"
  | .escapeCode => "found invalid Unicode character escape code"
  | .flowColon => "found unexpected ':'"
  | .plainTab => "found a tab character that violates indentation"
  | .documentStart => "did not find expected <document start>"
  | .versionTwice => "found duplicate %YAML directive"
  | .version => "found incompatible YAML document"
  | .tagTwice => "found duplicate %TAG directive"
  | .tagHandle => "found undefined tag handle"
  | .nodeContent => "did not find expected node content"
  | .blockEntry => "did not find expected '-' indicator"
  | .blockKey => "did not find expected key"
  | .flowSequenceEnd => "did not find expected ',' or ']'"
  | .flowMappingEnd => "did not find expected ',' or '\x7d'"

structure SyntaxFault where
  problem : Problem
  mark : Mark
  during : Option (Activity × Mark) := none
  deriving DecidableEq

/-- The problem with its position, then the activity with its start where that is elsewhere. -/
def SyntaxFault.message (f : SyntaxFault) : String :=
  let at? (m : Mark) := " at " ++ m.text
  let problem :=
    f.problem.phrase ++
      if f.mark.isInside then at? f.mark
      else if f.problem = .controlCharacter ∧ f.mark.index ≠ 0 then
        " at position " ++ toString f.mark.index
      else ""
  match f.during with
  | none => problem
  | some (activity, start) =>
    problem ++ ", " ++ activity.phrase ++
      if start.isInside ∧ (start.line ≠ f.mark.line ∨ start.column ≠ f.mark.column) then
        at? start
      else ""

end ComponentSchema.Yaml
