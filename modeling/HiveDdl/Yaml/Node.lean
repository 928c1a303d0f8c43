import HiveDdl.Yaml.Parser
import HiveDdl.Yaml.Resolver
import HiveDdl.CallDepth
/-!
# The node graph of a YAML document

Events compose into a graph of nodes: scalars with their text, sequences with their items,
mappings with their key and value pairs. Every node has a tag, given or inferred, and the mark
where it starts. A node with an anchor can be used again by an alias, so one node may stand in
several places, and a collection may hold itself.

Nodes are numbered in the order their first event is read; a collection gets its number before
its children, so an alias inside a collection may name the collection.

A text holds at most one document. An alias to an anchor not defined before it, and an anchor
defined twice, are errors. Composing nests calls (`CallDepth`), two for each collection, and a
collection nested past the call limit fails as it starts.

* `NodeGraph.ofText text depth`: the graph of the text's document, if it has one, for a load
  called with `depth` calls open.
-/

namespace HiveDdl.Yaml

/-- What a node holds: the text of a scalar, the items of a sequence, or the key and value
pairs of a mapping, as node numbers. -/
inductive NodeShape where
  | scalar (value : String)
  | sequence (items : Array Nat)
  | mapping (pairs : Array (Nat × Nat))
deriving Repr, Inhabited

/-- A node: its tag, what it holds, and where it starts. -/
structure Node where
  tag : String
  shape : NodeShape
  start : Mark
deriving Repr, Inhabited

def NodeShape.kindName : NodeShape → String
  | .scalar _ => "scalar"
  | .sequence _ => "sequence"
  | .mapping _ => "mapping"

/-- The nodes of a document and the number of its root. -/
structure NodeGraph where
  nodes : Array Node
  root : Nat
deriving Repr

/-- The state of composing: the parser, the nodes so far, and the anchors of the document with
the nodes they name. -/
structure Composer where
  parser : Parser
  nodes : Array Node
  anchors : List (String × Nat)

abbrev ComposeM := StateT Composer (Except LoadError)

namespace Composer

def parse {α : Type} (x : ParseM α) : ComposeM α := do
  let c ← get
  match x.run c.parser with
  | .ok (a, p) =>
    set { c with parser := p }
    pure a
  | .error e => throw e

def peek : ComposeM Event := do
  match ← parse peekEvent with
  | some e => pure e
  | none => pure ⟨.streamEnd, default, default⟩

def take : ComposeM Event := do
  match ← parse takeEvent with
  | some e => pure e
  | none => pure ⟨.streamEnd, default, default⟩

def addNode (n : Node) : ComposeM Nat := do
  let c ← get
  set { c with nodes := c.nodes.push n }
  pure c.nodes.size

def setShape (id : Nat) (shape : NodeShape) : ComposeM Unit :=
  modify fun c => { c with nodes := c.nodes.modify id fun n => { n with shape := shape } }

def register (anchor : Option String) (id : Nat) : ComposeM Unit :=
  match anchor with
  | some a => modify fun c => { c with anchors := (a, id) :: c.anchors }
  | none => pure ()

def checkAnchor (anchor : Option String) (m : Mark) : ComposeM Unit := do
  let some a := anchor | pure ()
  let c ← get
  match c.anchors.lookup a with
  | some first =>
    throw (.marked ⟨some ("found duplicate anchor " ++ Text.quoted a ++ "; first occurrence"),
      some (c.nodes.getD first default).start, "second occurrence", m⟩)
  | none => pure ()

def collectionTag (tag : Option String) (default : String) : String :=
  match tag with
  | some t => if t = "!" then default else t
  | none => default

/-- The tag of a scalar: its own, or one inferred from its text when it has none or only `!`
and its tag may be inferred. -/
def scalarTag (tag : Option String) (plainImplicit : Bool) (value : String) : String :=
  match tag with
  | some t => if t = "!" then (if plainImplicit then resolveScalar value else strTag) else t
  | none => if plainImplicit then resolveScalar value else strTag

def exhausted {α : Type} : ComposeM α :=
  throw (.failure "RecursionError" "maximum recursion depth exceeded")

/-- The error of starting a collection past the call limit: a sequence fails entering a call,
a mapping creating its node. -/
def tooDeep {α : Type} (mapping : Bool) : ComposeM α :=
  throw (.failure "RecursionError"
    (recursionMessage (if mapping then " while calling a Python object" else "")))

mutual

/-- Composes the node whose events come next, composed with `depth` calls open, and returns
its number. A collection nests its items two calls deeper; starting a sequence takes twelve
calls more, a mapping sixteen, and past the call limit it fails. -/
def node : Nat → Nat → ComposeM Nat
  | 0, _ => exhausted
  | fuel + 1, depth => do
    let e ← peek
    match e.kind with
    | .alias a =>
      let _ ← take
      match (← get).anchors.lookup a with
      | some id => pure id
      | none => throw (.marked ⟨none, none, "found undefined alias " ++ Text.quoted a, e.start⟩)
    | .scalar anchor tag plainImplicit value =>
      checkAnchor anchor e.start
      let _ ← take
      let id ← addNode ⟨scalarTag tag plainImplicit value, .scalar value, e.start⟩
      register anchor id
      pure id
    | .sequenceStart anchor tag =>
      if exceedsLimit depth 12 then tooDeep false
      checkAnchor anchor e.start
      let _ ← take
      let id ← addNode ⟨collectionTag tag seqTag, .sequence #[], e.start⟩
      register anchor id
      let items ← sequenceItems fuel (depth + 2) #[]
      setShape id (.sequence items)
      pure id
    | .mappingStart anchor tag =>
      if exceedsLimit depth 16 then tooDeep true
      checkAnchor anchor e.start
      let _ ← take
      let id ← addNode ⟨collectionTag tag mapTag, .mapping #[], e.start⟩
      register anchor id
      let pairs ← mappingPairs fuel (depth + 2) #[]
      setShape id (.mapping pairs)
      pure id
    | _ => exhausted

def sequenceItems : Nat → Nat → Array Nat → ComposeM (Array Nat)
  | 0, _, _ => exhausted
  | fuel + 1, depth, acc => do
    match (← peek).kind with
    | .sequenceEnd =>
      let _ ← take
      pure acc
    | _ =>
      let item ← node fuel depth
      sequenceItems fuel depth (acc.push item)

def mappingPairs : Nat → Nat → Array (Nat × Nat) → ComposeM (Array (Nat × Nat))
  | 0, _, _ => exhausted
  | fuel + 1, depth, acc => do
    match (← peek).kind with
    | .mappingEnd =>
      let _ ← take
      pure acc
    | _ =>
      let key ← node fuel depth
      let value ← node fuel depth
      mappingPairs fuel depth (acc.push (key, value))

end

/-- Composes the document whose events come next, for a load called with `depth` calls open;
its anchors end with it. -/
def document (fuel depth : Nat) : ComposeM Nat := do
  let _ ← take
  let root ← node fuel (depth + 2)
  let _ ← take
  modify fun c => { c with anchors := [] }
  pure root

def atStreamEnd : ComposeM Bool := do
  match (← peek).kind with
  | .streamEnd => pure true
  | _ => pure false

/-- Composes the stream's only document, if it has one, for a load called with `depth` calls
open; a second document is an error. -/
def single (fuel depth : Nat) : ComposeM (Option Nat) := do
  let _ ← take
  let root ← if ← atStreamEnd then pure none else some <$> document fuel depth
  if !(← atStreamEnd) then
    let e ← take
    let nodes := (← get).nodes
    let start := match root with
      | some id => (nodes.getD id default).start
      | none => default
    throw (.marked ⟨some "expected a single document in the stream", some start,
      "but found another document", e.start⟩)
  let _ ← take
  pure root

end Composer

/-- The graph of the only document of a text, or none for a text without one, for a load
called with `depth` calls open. Composing takes at most a few steps per character, which bounds
the steps given. -/
def NodeGraph.ofText (text : String) (depth : Nat) : Except LoadError (Option NodeGraph) := do
  checkAcceptable text
  match (Composer.single (4 * text.length + 8) depth).run ⟨Parser.start text, #[], []⟩ with
  | .ok (some root, c) => .ok (some ⟨c.nodes, root⟩)
  | .ok (none, _) => .ok none
  | .error e => .error e

end HiveDdl.Yaml
