import HiveDdl.Yaml.Node
import HiveDdl.Yaml.Number
import HiveDdl.Yaml.Datum
import HiveDdl.Text.Base64
/-!
# Loading values from YAML nodes

Each node of a document becomes one value, by its tag: `null`, `bool`, `int`, `float`,
`binary`, `timestamp` and `str` for scalars; `seq`, `map`, `set`, `omap` and `pairs` for
collections. Any other tag is an error. A node met again (through an alias) gives the same value.

A collection's value is made empty when the collection is first met and filled later: first the
root, then the collections met while filling it, and so on, round by round. So a collection may
hold itself, and the first error met in this order is the one reported.

A mapping is flattened before it is filled: the value of a `<<` key, a mapping or a list of
mappings, is merged in front of the mapping's own pairs (later mappings of a list first), and a
`=` key becomes an ordinary text key. Keys must be hashable; of equal keys the first is kept
with the last value.

* `Loaded.ofText text depth`: the value of the text's only document, in its heap.
-/

namespace HiveDdl.Yaml

/-- The tags with a value, by what they build. -/
inductive Builds where
  | null | bool | int | float | binary | timestamp | str
  | seq | map | set | omap | pairs
deriving Repr, DecidableEq

def Builds.ofTag (tag : String) : Option Builds :=
  let known : List (String × Builds) :=
    [("null", .null), ("bool", .bool), ("int", .int), ("float", .float), ("binary", .binary),
     ("timestamp", .timestamp), ("omap", .omap), ("pairs", .pairs), ("set", .set),
     ("str", .str), ("seq", .seq), ("map", .map)]
  if tag.startsWith "tag:yaml.org,2002:" then
    known.lookup (String.ofList (tag.toList.drop "tag:yaml.org,2002:".length))
  else none

def Builds.isCollection : Builds → Bool
  | .seq | .map | .set | .omap | .pairs => true
  | _ => false

def Builds.empty : Builds → Datum
  | .map => .dict #[]
  | .set => .set #[]
  | _ => .list #[]

def mergeTag : String := "tag:yaml.org,2002:merge"
def valueTag : String := "tag:yaml.org,2002:value"

/-- The state of loading: the nodes (flattening changes mappings and tags), the heap of values,
the value of each node made so far, and the collections to fill in the next round. The heap
starts with the one NaN that `.nan` stands for. -/
structure Builder where
  nodes : Array Node
  heap : Array Datum
  made : Array (Option Nat)
  pending : Array Nat

abbrev BuildM := StateT Builder (Except LoadError)

namespace Builder

def node (id : Nat) : BuildM Node := do
  pure ((← get).nodes.getD id default)

def failWith {α : Type} (kind message : String) : BuildM α :=
  throw (.failure kind message)

def problem {α : Type} (context : Option String) (contextMark : Option Mark) (text : String)
    (m : Mark) : BuildM α :=
  throw (.marked ⟨context, contextMark, text, m⟩)

def tooDeep {α : Type} : BuildM α :=
  failWith "RecursionError" "maximum recursion depth exceeded in comparison"

def alloc (d : Datum) : BuildM Nat := do
  let b ← get
  set { b with heap := b.heap.push d }
  pure b.heap.size

def store (o : Nat) (d : Datum) : BuildM Unit :=
  modify fun b => { b with heap := b.heap.set! o d }

def remember (id o : Nat) : BuildM Unit :=
  modify fun b => { b with made := b.made.set! id (some o) }

def setPairs (id : Nat) (pairs : Array (Nat × Nat)) : BuildM Unit :=
  modify fun b => { b with nodes := b.nodes.modify id fun n => { n with shape := .mapping pairs } }

def setTag (id : Nat) (tag : String) : BuildM Unit :=
  modify fun b => { b with nodes := b.nodes.modify id fun n => { n with tag := tag } }

def pairsOf (id : Nat) : BuildM (Array (Nat × Nat)) := do
  match (← node id).shape with
  | .mapping ps => pure ps
  | _ => pure #[]

def scalarText : Nat → Nat → BuildM String
  | 0, _ => tooDeep
  | fuel + 1, id => do
    let n ← node id
    match n.shape with
    | .scalar v => pure v
    | .mapping ps =>
      let nodes := (← get).nodes
      match ps.find? fun (k, _) => (nodes.getD k default).tag == valueTag with
      | some (_, v) => scalarText fuel v
      | none => problem none none "expected a scalar node, but found mapping" n.start
    | .sequence _ => problem none none "expected a scalar node, but found sequence" n.start

def boolWords : List (String × Bool) :=
  [("yes", true), ("no", false), ("true", true), ("false", false), ("on", true), ("off", false)]

def escapedCode (c : Char) : String :=
  let n := c.toNat
  if n ≤ 0xFF then "\\x" ++ Text.hexPadded 2 n
  else if n ≤ 0xFFFF then "\\u" ++ Text.hexPadded 4 n
  else "\\U" ++ Text.hexPadded 8 n

def asciiProblem (s : String) : Option String :=
  let cs := s.toList
  match cs.findIdx? (·.toNat ≥ 128) with
  | none => none
  | some start =>
    let run := (cs.drop start).takeWhile (·.toNat ≥ 128)
    let whereText := if run.length = 1 then
        "character '" ++ escapedCode (run.headD ' ') ++ "' in position " ++ toString start
      else "characters in position " ++ toString start ++ "-" ++ toString (start + run.length - 1)
    some ("'ascii' codec can't encode " ++ whereText ++ ": ordinal not in range(128)")

/-- The fields of a timestamp: year, month, day, and the time part when there is one: hour,
minute, second, fraction digits, and the zone (`Z`, or a sign, hours and minutes). -/
structure Stamp where
  year : Nat
  month : Nat
  day : Nat
  time : Option (Nat × Nat × Nat × List Char × Option (Option (Bool × Nat × Nat)))

def oneOrTwo (cs : List Char) : Option (Nat × List Char) :=
  match cs with
  | a :: b :: rest =>
    if isDigitChar a then
      (if isDigitChar b then some (decimalValue [a, b], rest) else some (decimalValue [a], b :: rest))
    else none
  | [a] => if isDigitChar a then some (decimalValue [a], []) else none
  | [] => none

def exactly (n : Nat) (cs : List Char) : Option (Nat × List Char) :=
  if (cs.take n).length = n ∧ (cs.take n).all isDigitChar then some (decimalValue (cs.take n), cs.drop n)
  else none

def atEnd (cs : List Char) : Bool := cs.isEmpty || cs == ['\n']

def readZone (cs : List Char) : Option (Option (Bool × Nat × Nat) × List Char) :=
  let cs := cs.dropWhile fun c => c = ' ' || c = '\t'
  match cs with
  | 'Z' :: rest => some (none, rest)
  | s :: rest =>
    if s = '-' ∨ s = '+' then
      (oneOrTwo rest).map fun (h, more) =>
        match more with
        | ':' :: more' =>
          match exactly 2 more' with
          | some (m, after) => (some (s = '-', h, m), after)
          | none => (some (s = '-', h, 0), more)
        | _ => (some (s = '-', h, 0), more)
    else none
  | [] => none

def readStamp (text : String) : Option Stamp := do
  let cs := text.toList
  let (year, r) ← exactly 4 cs
  let r ← match r with | '-' :: r => some r | _ => none
  let (month, r) ← oneOrTwo r
  let r ← match r with | '-' :: r => some r | _ => none
  let (day, r) ← oneOrTwo r
  if atEnd r then return ⟨year, month, day, none⟩
  let r ← match r with
    | c :: rest =>
      if c = 'T' || c = 't' then some rest
      else if c = ' ' || c = '\t' then some (rest.dropWhile fun d => d = ' ' || d = '\t')
      else none
    | [] => none
  let (hour, r) ← oneOrTwo r
  let r ← match r with | ':' :: r => some r | _ => none
  let (minute, r) ← exactly 2 r
  let r ← match r with | ':' :: r => some r | _ => none
  let (second, r) ← exactly 2 r
  let (fraction, r) := match r with
    | '.' :: more => (more.takeWhile isDigitChar, more.dropWhile isDigitChar)
    | _ => ([], r)
  if atEnd r then return ⟨year, month, day, some (hour, minute, second, fraction, none)⟩
  let (zone, r) ← readZone r
  if atEnd r then return ⟨year, month, day, some (hour, minute, second, fraction, some zone)⟩
  none

def stampValue (text : String) : BuildM Datum := do
  let some st := readStamp text
    | failWith "AttributeError" "'NoneType' object has no attribute 'groupdict'"
  match st.time with
  | none =>
    match Calendar.Date.make st.year st.month st.day with
    | .ok d => pure (.date d)
    | .error m => failWith "ValueError" m
  | some (hour, minute, second, fraction, zone) =>
    let micro := decimalValue ((fraction.take 6) ++ List.replicate (6 - fraction.length) '0')
    let offset ← match zone with
      | none => pure none
      | some none => pure (some 0)
      | some (some (negative, h, m)) =>
        match Calendar.offsetMinutes negative h m with
        | .ok o => pure (some o)
        | .error msg => failWith "ValueError" msg
    match Calendar.DateTime.make st.year st.month st.day hour minute second micro offset with
    | .ok t => pure (.dateTime t)
    | .error m => failWith "ValueError" m

def scalarValue (fuel : Nat) (what : Builds) (id : Nat) : BuildM (Option Datum) := do
  let n ← node id
  let text ← scalarText fuel id
  match what with
  | .null => pure (some .none)
  | .bool =>
    let key := Text.lower text
    match boolWords.lookup key with
    | some b => pure (some (.bool b))
    | none => failWith "KeyError" (Text.quoted key)
  | .int =>
    match intOfScalar text with
    | .ok i => pure (some (.int i))
    | .error e => failWith e.kind e.message
  | .float =>
    match floatOfScalar text with
    | .ok (some f) => pure (some (.float f))
    | .ok none => pure none
    | .error e => failWith e.kind e.message
  | .binary =>
    if let some msg := asciiProblem text then
      problem none none ("failed to convert base64 data into ascii: " ++ msg) n.start
    match Text.Base64.decode text with
    | .ok bs => pure (some (.bytes bs))
    | .error e => problem none none ("failed to decode base64 data: " ++ e.message) n.start
  | .timestamp =>
    match n.shape with
    | .scalar v => some <$> stampValue v
    | _ => failWith "TypeError" "expected string or bytes-like object, got 'list'"
  | _ => pure (some (.str text))

/-- The value of a node: the one made before, a scalar's value, or an empty collection to be
filled in the next round. -/
def construct (fuel : Nat) (id : Nat) : BuildM Nat := do
  if let some (some o) := (← get).made[id]? then return o
  let n ← node id
  let some what := Builds.ofTag n.tag
    | problem none none ("could not determine a constructor for the tag " ++ Text.quoted n.tag) n.start
  if what.isCollection then
    let o ← alloc what.empty
    remember id o
    modify fun b => { b with pending := b.pending.push id }
    pure o
  else
    let o ← match ← scalarValue fuel what id with
      | some d => alloc d
      | none => pure 0
    remember id o
    pure o

def mergeContext : String := "while constructing a mapping"

mutual

/-- Flattens a mapping node: takes out its `<<` pairs, merging the mappings they name in front
of its other pairs, and turns its `=` keys into text keys. -/
def flatten : Nat → Nat → BuildM Unit
  | 0, _ => tooDeep
  | fuel + 1, id => do
    let merged ← flattenFrom fuel id 0 #[]
    if !merged.isEmpty then
      setPairs id (merged ++ (← pairsOf id))

def flattenFrom : Nat → Nat → Nat → Array (Nat × Nat) → BuildM (Array (Nat × Nat))
  | 0, _, _, _ => tooDeep
  | fuel + 1, id, index, merge => do
    let ps ← pairsOf id
    let some (k, v) := ps[index]? | pure merge
    let keyNode ← node k
    if keyNode.tag == mergeTag then
      setPairs id (ps.eraseIdxIfInBounds index)
      let owner ← node id
      let valueNode ← node v
      match valueNode.shape with
      | .mapping _ =>
        flatten fuel v
        flattenFrom fuel id index (merge ++ (← pairsOf v))
      | .sequence subs =>
        let groups ← mergeList fuel owner.start subs.toList
        flattenFrom fuel id index (groups.reverse.foldl (· ++ ·) merge)
      | .scalar _ =>
        problem (some mergeContext) (some owner.start)
          "expected a mapping or list of mappings for merging, but found scalar" valueNode.start
    else
      if keyNode.tag == valueTag then setTag k strTag
      flattenFrom fuel id (index + 1) merge

def mergeList : Nat → Mark → List Nat → BuildM (List (Array (Nat × Nat)))
  | 0, _, _ => tooDeep
  | _ + 1, _, [] => pure []
  | fuel + 1, ownerStart, sub :: rest => do
    let subNode ← node sub
    match subNode.shape with
    | .mapping _ =>
      flatten fuel sub
      let mine ← pairsOf sub
      let others ← mergeList fuel ownerStart rest
      pure (mine :: others)
    | _ =>
      problem (some mergeContext) (some ownerStart)
        ("expected a mapping for merging, but found " ++ subNode.shape.kindName) subNode.start

end

def insertEntry (heap : Array Datum) (entries : Array (Nat × Nat)) (k v : Nat) :
    Array (Nat × Nat) :=
  match entries.findIdx? fun (k', _) => Datum.sameKey heap k' k with
  | some i => entries.modify i fun (k', _) => (k', v)
  | none => entries.push (k, v)

def mappingEntries (fuel : Nat) (id : Nat) : BuildM (Array (Nat × Nat)) := do
  if let .mapping _ := (← node id).shape then flatten fuel id
  let n ← node id
  match n.shape with
  | .mapping ps =>
    ps.foldlM (fun entries (k, v) => do
      let ko ← construct fuel k
      if !((← get).heap.getD ko default).isHashable then
        problem (some "while constructing a mapping") (some n.start) "found unhashable key"
          (← node k).start
      let vo ← construct fuel v
      pure (insertEntry (← get).heap entries ko vo)) #[]
  | shape => problem none none ("expected a mapping node, but found " ++ shape.kindName) n.start

def pairList (fuel : Nat) (context : String) (id : Nat) : BuildM (Array Nat) := do
  let n ← node id
  match n.shape with
  | .sequence subs =>
    subs.foldlM (fun items sub => do
      let subNode ← node sub
      match subNode.shape with
      | .mapping ps =>
        match ps.toList with
        | [(k, v)] =>
          let ko ← construct fuel k
          let vo ← construct fuel v
          pure (items.push (← alloc (.pair ko vo)))
        | _ =>
          problem (some context) (some n.start)
            ("expected a single mapping item, but found " ++ toString ps.size ++ " items") subNode.start
      | shape =>
        problem (some context) (some n.start)
          ("expected a mapping of length 1, but found " ++ shape.kindName) subNode.start) #[]
  | shape => problem (some context) (some n.start) ("expected a sequence, but found " ++ shape.kindName) n.start

def fill (fuel : Nat) (id : Nat) : BuildM Unit := do
  let n ← node id
  let some o := ((← get).made.getD id none) | pure ()
  match Builds.ofTag n.tag with
  | some .seq =>
    match n.shape with
    | .sequence items => store o (.list (← items.mapM (construct fuel)))
    | shape => problem none none ("expected a sequence node, but found " ++ shape.kindName) n.start
  | some .map => store o (.dict (← mappingEntries fuel id))
  | some .set => store o (.set ((← mappingEntries fuel id).map (·.1)))
  | some .omap => store o (.list (← pairList fuel "while constructing an ordered map" id))
  | some .pairs => store o (.list (← pairList fuel "while constructing pairs" id))
  | _ => pure ()

def rounds (fuel : Nat) : Nat → BuildM Unit
  | 0 => pure ()
  | count + 1 => do
    let due := (← get).pending
    if due.isEmpty then return
    modify fun b => { b with pending := #[] }
    due.forM (fill fuel)
    rounds fuel count

end Builder

/-- The values of a loaded document: the heap, and the number of the root's value. -/
structure Loaded where
  heap : Array Datum
  root : Nat

/-- The value of a text's only document, or none for a text without one, for a load called
with `depth` calls open. -/
def Loaded.ofText (text : String) (depth : Nat) : Except LoadError (Option Loaded) := do
  let some g ← NodeGraph.ofText text depth | return none
  let fuel := 4 * (g.nodes.size + (g.nodes.toList.map fun n => match n.shape with
    | .mapping ps => ps.size
    | .sequence items => items.size
    | .scalar _ => 0).foldl (· + ·) 0) + 64
  let start : Builder := ⟨g.nodes, #[.float notANumber], Array.replicate g.nodes.size none, #[]⟩
  let run : BuildM Nat := do
    let root ← Builder.construct fuel g.root
    Builder.rounds fuel (g.nodes.size + 1)
    pure root
  match run.run start with
  | .ok (root, b) => return some ⟨b.heap, root⟩
  | .error e => throw e

end HiveDdl.Yaml
