import ComponentSchema.Json.Value
import ComponentSchema.Yaml.Node
import ComponentSchema.Yaml.Scalar

/-!
Reading YAML text as a form.

`Yaml.readAs` builds the declared part of a document as a JSON value and reports the first problem
in document order. `Yaml.isSound` tells whether a text can be read as a document of any form at all.
At most 128 collections may enclose a value that is built.
-/

set_option autoImplicit false

namespace ComponentSchema.Yaml

inductive Path where
  | root
  | item (parent : Path) (index : Nat)
  | member (parent : Path) (key : String)
  | unnamed (parent : Path)

def Path.text : Path → String
  | .root => "."
  | .item parent index => parent.text ++ "[" ++ toString index ++ "]"
  | .member .root key => key
  | .member parent key => parent.text ++ "." ++ key
  | .unnamed .root => "?"
  | .unnamed parent => parent.text ++ ".?"

inductive Cause where
  | malformed (fault : SyntaxFault)
  | unknownAnchor (mark : Mark)
  | endOfStream
  | severalDocuments
  | tooDeep (mark : Mark)
  | tooManyAliases
  | repeatedKey
  | mismatched (mismatch : Mismatch) (path : Path) (mark : Mark)

abbrev Error := Cause

/-- A message and its position, where that is not the start of the text. -/
def atMark (message : String) (mark : Mark) : String :=
  if mark.isInside then message ++ " at " ++ mark.text else message

def Cause.message : Cause → String
  | .malformed fault => fault.message
  | .unknownAnchor _ => "unknown anchor"
  | .endOfStream => "EOF while parsing a value"
  | .severalDocuments =>
    "deserializing from YAML containing more than one document is not supported"
  | .tooDeep _ => "recursion limit exceeded"
  | .tooManyAliases => "repetition limit exceeded"
  | .repeatedKey => "duplicate entry"
  | .mismatched mismatch .root _ => mismatch.message
  | .mismatched mismatch path _ => path.text ++ ": " ++ mismatch.message

def Cause.located (cause : Cause) : String :=
  match cause with
  | .unknownAnchor mark | .tooDeep mark | .mismatched _ _ mark => atMark cause.message mark
  | _ => cause.message

def DocumentFault.cause : DocumentFault → Cause
  | .malformed fault => .malformed fault
  | .unknownAnchor mark => .unknownAnchor mark

def Document.cutCause (d : Document) : Cause :=
  (d.fault.map (·.cause)).getD .endOfStream

/-- A decoder counts the aliases it has followed. -/
abbrev Decoder := StateT Nat (Except Cause)

namespace Decoder

variable (d : Document)

/-- The node that is meant: that of the anchor for an alias. A document may follow a hundred aliases
for each of its nodes. -/
def resolve (node : Node) : Decoder Node := do
  match node with
  | .alias _ slot =>
    modify (· + 1)
    if 100 * d.size < (← get) then throw .tooManyAliases
    match d.anchored? slot with
    | some target => return target
    | none => throw .endOfStream
  | .cut => throw d.cutCause
  | node => return node

def found (node : Node) : Except Mismatch Found :=
  match node with
  | .scalar _ text style tag => (Scalar.resolve text style tag).map Scalar.found
  | .mapping .. => .ok .map
  | _ => .ok .sequence

def mark : Node → Mark
  | .scalar mark .. | .sequence mark .. | .mapping mark .. | .alias mark _ | .void mark => mark
  | .cut => {}

def unwanted {α : Type} (wanted : Wanted) (path : Path) (node : Node) : Decoder α :=
  match node with
  | .void _ => throw .endOfStream
  | node =>
    match found node with
    | .ok found => throw (.mismatched (.wrongType found wanted) path (mark node))
    | .error mismatch => throw (.mismatched mismatch path (mark node))

def text (wanted : Wanted) (path : Path) (node : Node) : Decoder String := do
  match ← resolve d node with
  | .scalar _ text _ _ => return text
  | other => unwanted wanted path other

def flag (path : Path) (node : Node) : Decoder Bool := do
  let other ← resolve d node
  match other with
  | .scalar _ text style tag =>
    let literal := style = .plain || (style = .literal && tag = some (Scalar.coreTag "bool"))
    match literal, Scalar.boolean? text with
    | true, some b => return b
    | _, _ => unwanted .flag path other
  | _ => unwanted .flag path other

/-- The JSON value of a scalar; a float that JSON cannot hold is `null`. -/
def ofScalar (path : Path) (mark : Mark) : Scalar → Decoder Json.Value
  | .null => return .null
  | .boolean b => return .boolean b
  | .integer n =>
    if !Scalar.fits n then
      throw (.mismatched (.wrongType (Scalar.integer n).found .anything) path mark)
    else if n < 0 then return .number (.signed (Int64.ofInt n))
    else return .number (.unsigned (UInt64.ofNat n.toNat))
  | .float x => return .number (.float x)
  | .infinite _ | .notANumber => return .null
  | .text s => return .string s

def isLocal (tag : Option String) : Bool :=
  tag.any fun tag => tag.startsWith "!" && 1 < tag.length

def isEmptyCollection : Node → Bool
  | .void _ => true
  | .scalar _ text style _ => text.isEmpty && style = .plain
  | _ => false

def skip (node : Node) : Decoder Unit :=
  if node.isCut then throw d.cutCause else return ()

def valuePath (path : Path) : Node → Path
  | .scalar _ text _ _ => .member path text
  | _ => .unnamed path

def items (element : Path → Node → Decoder Json.Value) (path : Path) :
    (index : Nat) → List Node → Decoder (List Json.Value)
  | _, [] => return []
  | index, item :: rest => do
    let value ← element (.item path index) item
    return value :: (← items element path (index + 1) rest)

/-- The entries of a free mapping. Its keys are texts; the last of equal keys counts. -/
def entries (value : Path → Node → Decoder Json.Value) (path : Path) :
    (first : Bool) → List (Node × Node) → Json.Members → Decoder Json.Members
  | _, [], read => return read
  | first, (key, node) :: rest, read => do
    let name ← text d (if first then .textKey else .text) path key
    let v ← value (valuePath path key) node
    entries value path false rest (Json.Members.insert name v read)

def fields (value : FieldForm → Path → Node → Decoder Json.Value) (kind : Record) (path : Path)
    (place : Mark) : List (Node × Node) → Json.Members → Decoder Json.Members
  | [], read =>
    match kind.firstMissing? (read.map (·.1)) with
    | some name => throw (.mismatched (.missing name) path place)
    | none => return read.reverse
  | (key, node) :: rest, read => do
    let name ← text d .fieldName path key
    match kind.field? name with
    | none =>
      skip d node
      fields value kind path place rest read
    | some field =>
      if (read.lookup name).isSome then throw (.mismatched (.repeated name) path place)
      let v ← value field (valuePath path key) node
      fields value kind path place rest ((name, v) :: read)

/-- Whether the value of a nullable field is absent. A null tag on another text is a mismatch, which
is placed at the record. -/
def isAbsent (path : Path) (place : Mark) (node : Node) : Decoder Bool := do
  match ← resolve d node with
  | .scalar _ text .plain none => return text.isEmpty || Scalar.isNull text
  | .scalar _ text .plain (some tag) =>
    if tag = Scalar.coreTag "null" then
      if Scalar.isNull text then return true
      else throw (.mismatched (.wrongText text .null) path place)
    else return false
  | .void _ => return true
  | _ => return false

/-- A value of the given form, with room for `depth` more collections. -/
def value : (depth : Nat) → Form → Path → Node → Decoder Json.Value
  | 0, form, path, node => do
    let target ← resolve d node
    match form, target with
    | .anything, .sequence mark tag _ | .anything, .mapping mark tag _ =>
      if isLocal tag then throw (.mismatched (.wrongType .tagged .anything) path mark)
      throw (.tooDeep mark)
    | .list _, .sequence mark _ _ | .record _, .mapping mark _ _ => throw (.tooDeep mark)
    | _, _ => flat form path target
  | depth + 1, form, path, node => do
    let target ← resolve d node
    match form, target with
    | .anything, .sequence mark tag nodes =>
      if isLocal tag then throw (.mismatched (.wrongType .tagged .anything) path mark)
      return .array (← items (value depth .anything) path 0 nodes)
    | .anything, .mapping mark tag nodes =>
      if isLocal tag then throw (.mismatched (.wrongType .tagged .anything) path mark)
      return .object (← entries d (value depth .anything) path true nodes [])
    | .list element, .sequence _ _ nodes =>
      return .array (← items (value depth element) path 0 nodes)
    | .record kind, .mapping mark _ nodes =>
      let ofField (field : FieldForm) (path' : Path) (node : Node) : Decoder Json.Value := do
        if field.nullable && (← isAbsent d path mark node) then return .null
        else value depth field.form path' node
      return .object (← fields d ofField kind path mark nodes [])
    | _, _ => flat form path target
where
  flat (form : Form) (path : Path) (target : Node) : Decoder Json.Value := do
    match form with
    | .text => return .string (← text d .text path target)
    | .flag => return .boolean (← flag d path target)
    | .anything =>
      match target with
      | .scalar mark s style tag =>
        if isLocal tag then throw (.mismatched (.wrongType .tagged .anything) path mark)
        match Scalar.resolve s style tag with
        | .ok scalar => ofScalar path mark scalar
        | .error mismatch => throw (.mismatched mismatch path mark)
      | _ => return .null
    | .list _ =>
      if isEmptyCollection target then return .array [] else unwanted .sequence path target
    | .record kind =>
      if isEmptyCollection target then
        return .object (← fields d (fun _ _ _ => return .null) kind path (mark target) [] [])
      else unwanted (.record kind) path target

end Decoder

def maxDepth : Nat := 128

/-- Finish reading a document: nothing may be wrong after its content, and nothing may follow. -/
def Document.finish {α : Type} (d : Document) (value : α) : Except Cause α :=
  match d.fault with
  | some fault => .error fault.cause
  | none => if d.followed then .error .severalDocuments else .ok value

def readAs (form : Form) (text : String) : Except Error Json.Value := do
  let d := Document.ofText text
  let (value, _) ← (Decoder.value d maxDepth form .root d.root).run 0
  d.finish value

/-! ### Texts of any form -/

/-- A value as YAML itself tells values apart. -/
inductive Value where
  | scalar (s : Scalar)
  | sequence (items : List Value)
  | mapping (entries : List (Value × Value))
  | tagged (tag : String) (value : Value)

mutual

/-- Equality of values: mappings are equal whatever the order of their entries. -/
def Value.same : Value → Value → Bool
  | .scalar (.float x), .scalar (.float y) => x = y || (x.isZero && y.isZero)
  | .scalar s, .scalar t => s = t
  | .sequence xs, .sequence ys => Value.sameItems xs ys
  | .mapping xs, .mapping ys => xs.length = ys.length && Value.sameEntries xs ys
  | .tagged s x, .tagged t y => s = t && x.same y
  | _, _ => false

def Value.sameItems : List Value → List Value → Bool
  | [], [] => true
  | x :: xs, y :: ys => x.same y && Value.sameItems xs ys
  | _, _ => false

def Value.sameEntries : List (Value × Value) → List (Value × Value) → Bool
  | [], _ => true
  | (key, value) :: rest, ys =>
    ys.any (fun (k, v) => key.same k && value.same v) && Value.sameEntries rest ys

end

namespace Decoder

variable (d : Document)

def plainItems (plain : Node → Decoder Value) : List Node → Decoder (List Value)
  | [] => return []
  | item :: rest => return (← plain item) :: (← plainItems plain rest)

def plainEntries (plain : Node → Decoder Value) :
    List (Node × Node) → List (Value × Value) → Decoder (List (Value × Value))
  | [], read => return read.reverse
  | (key, node) :: rest, read => do
    let k ← plain key
    if read.any fun (other, _) => other.same k then throw .repeatedKey
    let v ← plain node
    plainEntries plain rest ((k, v) :: read)

def plain : (depth : Nat) → Node → Decoder Value
  | depth, node => do
    let target ← resolve d node
    match depth, target with
    | _, .scalar mark s style tag =>
      let ignored := if isLocal tag then none else tag
      match Scalar.resolve s style ignored with
      | .ok scalar =>
        match scalar with
        | .integer n =>
          if !Scalar.fits n then
            throw (.mismatched (.wrongType scalar.found .anything) .root mark)
        | _ => pure ()
        return wrap tag (.scalar scalar)
      | .error mismatch => throw (.mismatched mismatch .root mark)
    | 0, .sequence mark .. | 0, .mapping mark .. => throw (.tooDeep mark)
    | depth + 1, .sequence _ tag nodes =>
      return wrap tag (.sequence (← plainItems (plain depth) nodes))
    | depth + 1, .mapping _ tag nodes =>
      return wrap tag (.mapping (← plainEntries (plain depth) nodes []))
    | _, _ => return .scalar .null
where
  wrap (tag : Option String) (value : Value) : Value :=
    if isLocal tag then .tagged (tag.getD "") value else value

end Decoder

/-- Whether a text is one complete YAML document, of whatever form, whose mappings have no key
twice. -/
def isSound (text : String) : Bool :=
  let d := Document.ofText text
  let outcome := do
    let (value, _) ← (Decoder.plain d maxDepth d.root).run 0
    d.finish value
  outcome.isOk

end ComponentSchema.Yaml
