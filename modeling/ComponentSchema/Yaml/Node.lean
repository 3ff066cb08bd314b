import ComponentSchema.Yaml.Event

/-!
The tree of a YAML document.

A document that ends in a fault keeps what was read: the node at which it breaks off is `Node.cut`.
An alias is kept as the slot of its anchor, so a document may refer to itself.
-/

set_option autoImplicit false

namespace ComponentSchema.Yaml

inductive Node where
  | scalar (mark : Mark) (text : String) (style : ScalarStyle) (tag : Option String)
  | sequence (mark : Mark) (tag : Option String) (items : List Node)
  | mapping (mark : Mark) (tag : Option String) (entries : List (Node × Node))
  | alias (mark : Mark) (slot : Nat)
  | void (mark : Mark)
  | cut
  deriving Inhabited

mutual

def Node.isCut : Node → Bool
  | .cut => true
  | .sequence _ _ items => anyCut items
  | .mapping _ _ entries => anyEntryCut entries
  | _ => false

def anyCut : List Node → Bool
  | [] => false
  | node :: rest => node.isCut || anyCut rest

def anyEntryCut : List (Node × Node) → Bool
  | [] => false
  | (key, value) :: rest => key.isCut || value.isCut || anyEntryCut rest

end

inductive DocumentFault where
  | malformed (fault : SyntaxFault)
  | unknownAnchor (mark : Mark)
  deriving DecidableEq

structure Anchored where
  slot : Nat
  place : Nat
  node : Node

structure Document where
  root : Node
  anchored : List Anchored
  /-- The number of scalars, aliases, and starts and ends of collections. -/
  size : Nat
  fault : Option DocumentFault
  followed : Bool

/-- An open collection: its items, or its entries and the key of the next one, the last in front. -/
inductive Content where
  | items (items : List Node)
  | entries (entries : List (Node × Node)) (key : Option Node)

structure Frame where
  mark : Mark
  tag : Option String
  anchor : Option (Nat × Nat)
  content : Content

/-- The state of composition: the open collections from the innermost, the slots of anchor names and
the nodes they hold. A name takes the next slot when it is declared, and keeps the number when it is
declared again. -/
structure Composition where
  frames : List Frame := []
  root : Option Node := none
  slots : List (String × Nat) := []
  anchored : List Anchored := []
  size : Nat := 0

namespace Composition

def declare (c : Composition) (name : Option String) : Composition × Option (Nat × Nat) :=
  match name with
  | none => (c, none)
  | some name =>
    let slot := c.slots.length
    ({ c with slots := (name, slot) :: c.slots.filter (·.1 != name) }, some (slot, c.size))

def add (c : Composition) (anchor : Option (Nat × Nat)) (node : Node) : Composition :=
  let c := match anchor with
    | some (slot, place) => { c with anchored := ⟨slot, place, node⟩ :: c.anchored }
    | none => c
  match c.frames with
  | [] => { c with root := some node }
  | frame :: outer =>
    let content := match frame.content with
      | .items items => .items (node :: items)
      | .entries entries none => .entries entries (some node)
      | .entries entries (some key) => .entries ((key, node) :: entries) none
    { c with frames := { frame with content } :: outer }

def openFrame (c : Composition) (p : Properties) (mark : Mark) (content : Content) : Composition :=
  let (c, anchor) := c.declare p.anchor
  { c with frames := { mark, tag := p.tag, anchor, content } :: c.frames, size := c.size + 1 }

def close (c : Composition) : Composition :=
  match c.frames with
  | [] => c
  | frame :: outer =>
    let node := match frame.content with
      | .items items => Node.sequence frame.mark frame.tag items.reverse
      | .entries entries _ => .mapping frame.mark frame.tag entries.reverse
    ({ c with frames := outer }).add frame.anchor node

/-- Break off: what is open ends in a cut. -/
def breakOff (c : Composition) : Composition :=
  match c.frames with
  | [] => if c.root.isNone then { c with root := some .cut } else c
  | frame :: _ =>
    let c := c.add none .cut
    let c := match frame.content with
      | .entries _ none => c.add none .cut
      | _ => c
    c.frames.foldl (fun c _ => c.close) c

def document (c : Composition) (fault : Option DocumentFault) (followed : Bool) : Document :=
  let c := if fault.isSome then c.breakOff else c
  { root := c.root.getD (.void {})
    anchored := c.anchored
    size := c.size
    fault
    followed }

def compose (fault : Option SyntaxFault) : List (Event × Mark) → Composition → Document
  | [], c => c.document (fault.map .malformed) false
  | (event, mark) :: rest, c =>
    match event with
    | .documentStart => compose fault rest c
    | .documentEnd => c.document none (!rest.isEmpty || fault.isSome)
    | .alias name =>
      match c.slots.lookup name with
      | some slot => compose fault rest { c.add none (.alias mark slot) with size := c.size + 1 }
      | none => c.document (some (.unknownAnchor mark)) false
    | .scalar p text style =>
      let (c, anchor) := c.declare p.anchor
      compose fault rest
        { c.add anchor (.scalar mark text style p.tag) with size := c.size + 1 }
    | .sequenceStart p => compose fault rest (c.openFrame p mark (.items []))
    | .mappingStart p => compose fault rest (c.openFrame p mark (.entries [] none))
    | .sequenceEnd => compose fault rest { c.close with size := c.size + 1 }
    | .mappingEnd => compose fault rest { c.close with size := c.size + 1 }

end Composition

def Document.ofText (text : String) : Document :=
  let (events, fault) := Event.ofTokens (Token.ofText text)
  Composition.compose fault events {}

/-- The node of a slot: the last one that was declared for it. -/
def Document.anchored? (d : Document) (slot : Nat) : Option Node :=
  let latest (best : Option Anchored) (a : Anchored) : Option Anchored :=
    if a.slot ≠ slot then best
    else match best with
      | some b => if b.place < a.place then some a else best
      | none => some a
  (d.anchored.foldl latest none).map (·.node)

end ComponentSchema.Yaml
