import HiveDdl.Yaml.Scanner
/-!
# Parsing YAML token streams

The parser turns tokens into events: stream and document boundaries, scalars, aliases, and the
starts and ends of sequences and mappings. It follows the YAML grammar with a stack of states,
one event per step; an entry or value left out (`- ` with nothing after it, a key without a
value) becomes an empty plain scalar. Anchors and tags before a node are attached to it; tag
handles are expanded with the `%TAG` directives of the document (`!` and `!!` by default).

A token where the grammar does not allow it is an error naming the construct being parsed and
the token found.

* `produceEvent`: one step of the grammar; `peekEvent`, `takeEvent`: the event stream, on
  demand.
-/

namespace HiveDdl.Yaml

/-- The kinds of events. -/
inductive EventKind where
  | streamStart
  | streamEnd
  | documentStart
  | documentEnd
  | alias (anchor : String)
  /-- A scalar: anchor, tag, whether its tag is to be inferred from its plain value, value. -/
  | scalar (anchor : Option String) (tag : Option String) (plainImplicit : Bool) (value : String)
  | sequenceStart (anchor : Option String) (tag : Option String)
  | sequenceEnd
  | mappingStart (anchor : Option String) (tag : Option String)
  | mappingEnd
deriving Repr

/-- An event with where it starts and ends. -/
structure Event where
  kind : EventKind
  start : Mark
  stop : Mark
deriving Repr

def Event.anchor (e : Event) : Option String :=
  match e.kind with
  | .scalar a _ _ _ => a
  | .sequenceStart a _ => a
  | .mappingStart a _ => a
  | _ => none

/-- The states of the parser: what it expects next. -/
inductive ParserState where
  | streamStart
  | implicitDocumentStart
  | documentStart
  | documentEnd
  | documentContent
  | blockNode
  | blockSequenceFirstEntry
  | blockSequenceEntry
  | indentlessSequenceEntry
  | blockMappingFirstKey
  | blockMappingKey
  | blockMappingValue
  | flowSequenceFirstEntry
  | flowSequenceEntry
  | flowSequenceEntryMappingKey
  | flowSequenceEntryMappingValue
  | flowSequenceEntryMappingEnd
  | flowMappingFirstKey
  | flowMappingKey
  | flowMappingValue
  | flowMappingEmptyValue
deriving Repr, DecidableEq

/-- The state of parsing: the scanner, the current state (none after the stream end), the
states to return to, the marks of open collections, the tag handles of the document, and the
event read ahead. -/
structure Parser where
  scanner : Scanner
  state : Option ParserState
  states : List ParserState
  marks : List Mark
  tagHandles : List (String × String)
  current : Option Event
deriving Repr

abbrev ParseM := StateT Parser (Except LoadError)

def defaultTagHandles : List (String × String) :=
  [("!", "!"), ("!!", "tag:yaml.org,2002:")]

def Parser.start (text : String) : Parser :=
  ⟨Scanner.start text, some .streamStart, [], [], [], none⟩

def scan {α : Type} (x : ScanM α) : ParseM α := do
  let p ← get
  match x.run p.scanner with
  | .ok (a, s) =>
    set { p with scanner := s }
    pure a
  | .error e => throw e

def nextToken : ParseM Token := do
  match ← scan peekToken with
  | some t => pure t
  | none => pure ⟨.streamEnd, default, default⟩

def getToken : ParseM Token := do
  match ← scan takeToken with
  | some t => pure t
  | none => pure ⟨.streamEnd, default, default⟩

def checkToken (p : TokenKind → Bool) : ParseM Bool := do
  pure (p (← nextToken).kind)

def parseFail {α : Type} (context : Option String) (contextMark : Option Mark) (problem : String)
    (m : Mark) : ParseM α :=
  throw (.marked ⟨context, contextMark, problem, m⟩)

def showKind (k : TokenKind) : String := Text.quoted k.name

section Kinds
def isDirective : TokenKind → Bool | .directive _ _ => true | _ => false
def isDocumentStart : TokenKind → Bool | .documentStart => true | _ => false
def isDocumentEnd : TokenKind → Bool | .documentEnd => true | _ => false
def isStreamEnd : TokenKind → Bool | .streamEnd => true | _ => false
def isBlockEntry : TokenKind → Bool | .blockEntry => true | _ => false
def isBlockEnd : TokenKind → Bool | .blockEnd => true | _ => false
def isKey : TokenKind → Bool | .key => true | _ => false
def isValue : TokenKind → Bool | .value => true | _ => false
def isFlowEntry : TokenKind → Bool | .flowEntry => true | _ => false
def isFlowSequenceEnd : TokenKind → Bool | .flowSequenceEnd => true | _ => false
def isFlowMappingEnd : TokenKind → Bool | .flowMappingEnd => true | _ => false
end Kinds

def goTo (s : ParserState) : ParseM Unit :=
  modify fun p => { p with state := some s }

def pushState (s : ParserState) : ParseM Unit :=
  modify fun p => { p with states := s :: p.states }

def popState : ParseM Unit :=
  modify fun p => match p.states with
    | s :: rest => { p with state := some s, states := rest }
    | [] => { p with state := none }

def pushMark (m : Mark) : ParseM Unit :=
  modify fun p => { p with marks := m :: p.marks }

def popMark : ParseM Unit :=
  modify fun p => { p with marks := p.marks.drop 1 }

def topMark : ParseM Mark := do
  pure ((← get).marks.head?.getD default)

def emptyScalar (m : Mark) : Event := ⟨.scalar none none true "", m, m⟩

/-- Reads the directives before a document: at most one `%YAML` (version 1), and `%TAG`
handles, each once. -/
def processDirectives : ParseM Unit := do
  modify fun p => { p with tagHandles := [] }
  let rec go : Nat → Option (Nat × Nat) → ParseM Unit
    | 0, _ => pure ()
    | fuel + 1, version => do
      if !(← checkToken isDirective) then return
      let t ← getToken
      match t.kind with
      | .directive "YAML" (.version major minor) =>
        if version.isSome then parseFail none none "found duplicate YAML directive" t.start
        if major ≠ 1 then
          parseFail none none "found incompatible YAML document (version 1.* is required)" t.start
        go fuel (some (major, minor))
      | .directive "TAG" (.tagPrefix handle pfx) =>
        let p ← get
        if p.tagHandles.any (·.1 = handle) then
          parseFail none none ("duplicate tag handle " ++ Text.quoted handle) t.start
        set { p with tagHandles := p.tagHandles ++ [(handle, pfx)] }
        go fuel version
      | _ => go fuel version
  go ((← get).scanner.buf.size + 1) none
  modify fun p => { p with tagHandles := p.tagHandles ++
    defaultTagHandles.filter fun (h, _) => !(p.tagHandles.any (·.1 = h)) }

def noContent (block : Bool) (anchor tag : Option String) (implicit : Bool) (start stop : Mark)
    (next : Token) : ParseM Event := do
  if anchor.isSome || tag.isSome then
    popState
    pure ⟨.scalar anchor tag implicit "", start, stop⟩
  else
    parseFail (some ("while parsing a " ++ (if block then "block" else "flow") ++ " node"))
      (some start) ("expected the node content, but found " ++ showKind next.kind) next.start

/-- Parses a node: an alias, or properties (anchor, tag) and content — a scalar, a flow or
block collection, or (with properties only) an empty scalar. -/
def parseNode (block indentless : Bool) : ParseM Event := do
  let t ← nextToken
  if let .alias name := t.kind then
    discard getToken
    popState
    return ⟨.alias name, t.start, t.stop⟩
  let mut anchor : Option String := none
  let mut tag : Option (Option String × String) := none
  let mut startMark : Option Mark := none
  let mut endMark : Option Mark := none
  let mut tagMark : Option Mark := none
  match t.kind with
  | .anchor name =>
    discard getToken
    startMark := some t.start
    endMark := some t.stop
    anchor := some name
    let t2 ← nextToken
    if let .tag h s := t2.kind then
      discard getToken
      tagMark := some t2.start
      endMark := some t2.stop
      tag := some (h, s)
  | .tag h s =>
    discard getToken
    startMark := some t.start
    tagMark := some t.start
    endMark := some t.stop
    tag := some (h, s)
    let t2 ← nextToken
    if let .anchor name := t2.kind then
      discard getToken
      endMark := some t2.stop
      anchor := some name
  | _ => pure ()
  let resolvedTag ← match tag with
    | some (some handle, suffix) => do
      match (← get).tagHandles.find? (·.1 = handle) with
      | some (_, pfx) => pure (some (pfx ++ suffix))
      | none =>
        parseFail (some "while parsing a node") startMark
          ("found undefined tag handle " ++ Text.quoted handle) (tagMark.getD default)
    | some (none, suffix) => pure (some suffix)
    | none => pure none
  let next ← nextToken
  let start := startMark.getD next.start
  let stop := endMark.getD next.start
  let implicit := resolvedTag.isNone || resolvedTag == some "!"
  if indentless && isBlockEntry next.kind then
    goTo .indentlessSequenceEntry
    return ⟨.sequenceStart anchor resolvedTag, start, next.stop⟩
  match next.kind with
  | .scalar value plain =>
    discard getToken
    popState
    let plainImplicit := (plain && resolvedTag.isNone) || resolvedTag == some "!"
    pure ⟨.scalar anchor resolvedTag plainImplicit value, start, next.stop⟩
  | .flowSequenceStart =>
    goTo .flowSequenceFirstEntry
    pure ⟨.sequenceStart anchor resolvedTag, start, next.stop⟩
  | .flowMappingStart =>
    goTo .flowMappingFirstKey
    pure ⟨.mappingStart anchor resolvedTag, start, next.stop⟩
  | .blockSequenceStart =>
    if block then
      goTo .blockSequenceFirstEntry
      pure ⟨.sequenceStart anchor resolvedTag, start, next.start⟩
    else noContent block anchor resolvedTag implicit start stop next
  | .blockMappingStart =>
    if block then
      goTo .blockMappingFirstKey
      pure ⟨.mappingStart anchor resolvedTag, start, next.start⟩
    else noContent block anchor resolvedTag implicit start stop next
  | _ => noContent block anchor resolvedTag implicit start stop next

def parseDocumentStart : ParseM Event := do
  let rec skipEnds : Nat → ParseM Unit
    | 0 => pure ()
    | fuel + 1 => do
      if ← checkToken isDocumentEnd then
        discard getToken
        skipEnds fuel
  skipEnds ((← get).scanner.buf.size + 1)
  if !(← checkToken isStreamEnd) then
    let start := (← nextToken).start
    processDirectives
    let t ← nextToken
    if !isDocumentStart t.kind then
      parseFail none none ("expected '<document start>', but found " ++ showKind t.kind) t.start
    let t ← getToken
    pushState .documentEnd
    goTo .documentContent
    pure ⟨.documentStart, start, t.stop⟩
  else
    let t ← getToken
    modify fun p => { p with state := none }
    pure ⟨.streamEnd, t.start, t.stop⟩

/-- Parses the entries of a flow sequence: entries separated by `,` up to `]`; a `key: value`
entry is a one-pair mapping. -/
def parseFlowSequenceEntry (first : Bool) : ParseM Event := do
  if !(← checkToken isFlowSequenceEnd) then
    if !first then
      if ← checkToken isFlowEntry then discard getToken
      else
        let t ← nextToken
        parseFail (some "while parsing a flow sequence") (some (← topMark))
          ("expected ',' or ']', but got " ++ showKind t.kind) t.start
    let t ← nextToken
    if isKey t.kind then
      goTo .flowSequenceEntryMappingKey
      return ⟨.mappingStart none none, t.start, t.stop⟩
    else if !isFlowSequenceEnd t.kind then
      pushState .flowSequenceEntry
      return ← parseNode false false
  let t ← getToken
  popState
  popMark
  pure ⟨.sequenceEnd, t.start, t.stop⟩

def parseFlowMappingKey (first : Bool) : ParseM Event := do
  if !(← checkToken isFlowMappingEnd) then
    if !first then
      if ← checkToken isFlowEntry then discard getToken
      else
        let t ← nextToken
        parseFail (some "while parsing a flow mapping") (some (← topMark))
          ("expected ',' or '\x7d', but got " ++ showKind t.kind) t.start
    let t ← nextToken
    if isKey t.kind then
      let t ← getToken
      if !(← checkToken fun k => isValue k || isFlowEntry k || isFlowMappingEnd k) then
        pushState .flowMappingValue
        return ← parseNode false false
      else
        goTo .flowMappingValue
        return emptyScalar t.stop
    else if !isFlowMappingEnd t.kind then
      pushState .flowMappingEmptyValue
      return ← parseNode false false
  let t ← getToken
  popState
  popMark
  pure ⟨.mappingEnd, t.start, t.stop⟩

def produceEvent : ParseM (Option Event) := do
  let some state := (← get).state | return none
  let ev ← match state with
    | .streamStart => do
      let t ← getToken
      goTo .implicitDocumentStart
      pure ⟨.streamStart, t.start, t.stop⟩
    | .implicitDocumentStart => do
      if !(← checkToken fun k => isDirective k || isDocumentStart k || isStreamEnd k) then
        modify fun p => { p with tagHandles := defaultTagHandles }
        let t ← nextToken
        pushState .documentEnd
        goTo .blockNode
        pure ⟨.documentStart, t.start, t.start⟩
      else parseDocumentStart
    | .documentStart => parseDocumentStart
    | .documentEnd => do
      let t ← nextToken
      let stop ← if isDocumentEnd t.kind then do pure (← getToken).stop else pure t.start
      goTo .documentStart
      pure ⟨.documentEnd, t.start, stop⟩
    | .documentContent => do
      let t ← nextToken
      if isDirective t.kind || isDocumentStart t.kind || isDocumentEnd t.kind || isStreamEnd t.kind then
        popState
        pure (emptyScalar t.start)
      else parseNode true false
    | .blockNode => parseNode true false
    | .blockSequenceFirstEntry => do
      let t ← getToken
      pushMark t.start
      blockSequenceEntry
    | .blockSequenceEntry => blockSequenceEntry
    | .indentlessSequenceEntry => do
      let t ← nextToken
      if isBlockEntry t.kind then
        let t ← getToken
        if !(← checkToken fun k => isBlockEntry k || isKey k || isValue k || isBlockEnd k) then
          pushState .indentlessSequenceEntry
          parseNode true false
        else
          goTo .indentlessSequenceEntry
          pure (emptyScalar t.stop)
      else
        popState
        pure ⟨.sequenceEnd, t.start, t.start⟩
    | .blockMappingFirstKey => do
      let t ← getToken
      pushMark t.start
      blockMappingKey
    | .blockMappingKey => blockMappingKey
    | .blockMappingValue => do
      let t ← nextToken
      if isValue t.kind then
        let t ← getToken
        if !(← checkToken fun k => isKey k || isValue k || isBlockEnd k) then
          pushState .blockMappingKey
          parseNode true true
        else
          goTo .blockMappingKey
          pure (emptyScalar t.stop)
      else
        goTo .blockMappingKey
        pure (emptyScalar t.start)
    | .flowSequenceFirstEntry => do
      let t ← getToken
      pushMark t.start
      parseFlowSequenceEntry true
    | .flowSequenceEntry => parseFlowSequenceEntry false
    | .flowSequenceEntryMappingKey => do
      let t ← getToken
      if !(← checkToken fun k => isValue k || isFlowEntry k || isFlowSequenceEnd k) then
        pushState .flowSequenceEntryMappingValue
        parseNode false false
      else
        goTo .flowSequenceEntryMappingValue
        pure (emptyScalar t.stop)
    | .flowSequenceEntryMappingValue => do
      let t ← nextToken
      if isValue t.kind then
        let t ← getToken
        if !(← checkToken fun k => isFlowEntry k || isFlowSequenceEnd k) then
          pushState .flowSequenceEntryMappingEnd
          parseNode false false
        else
          goTo .flowSequenceEntryMappingEnd
          pure (emptyScalar t.stop)
      else
        goTo .flowSequenceEntryMappingEnd
        pure (emptyScalar t.start)
    | .flowSequenceEntryMappingEnd => do
      goTo .flowSequenceEntry
      let t ← nextToken
      pure ⟨.mappingEnd, t.start, t.start⟩
    | .flowMappingFirstKey => do
      let t ← getToken
      pushMark t.start
      parseFlowMappingKey true
    | .flowMappingKey => parseFlowMappingKey false
    | .flowMappingValue => do
      let t ← nextToken
      if isValue t.kind then
        let t ← getToken
        if !(← checkToken fun k => isFlowEntry k || isFlowMappingEnd k) then
          pushState .flowMappingKey
          parseNode false false
        else
          goTo .flowMappingKey
          pure (emptyScalar t.stop)
      else
        goTo .flowMappingKey
        pure (emptyScalar t.start)
    | .flowMappingEmptyValue => do
      goTo .flowMappingKey
      pure (emptyScalar (← nextToken).start)
  pure (some ev)
where
  /-- The entries of a block sequence: `-` entries up to the block end. -/
  blockSequenceEntry : ParseM Event := do
    let t ← nextToken
    if isBlockEntry t.kind then
      let t ← getToken
      if !(← checkToken fun k => isBlockEntry k || isBlockEnd k) then
        pushState .blockSequenceEntry
        parseNode true false
      else
        goTo .blockSequenceEntry
        pure (emptyScalar t.stop)
    else if !isBlockEnd t.kind then
      parseFail (some "while parsing a block collection") (some (← topMark))
        ("expected <block end>, but found " ++ showKind t.kind) t.start
    else
      let t ← getToken
      popState
      popMark
      pure ⟨.sequenceEnd, t.start, t.stop⟩
  /-- The keys of a block mapping: `?` keys (explicit or inferred) up to the block end. -/
  blockMappingKey : ParseM Event := do
    let t ← nextToken
    if isKey t.kind then
      let t ← getToken
      if !(← checkToken fun k => isKey k || isValue k || isBlockEnd k) then
        pushState .blockMappingValue
        parseNode true true
      else
        goTo .blockMappingValue
        pure (emptyScalar t.stop)
    else if !isBlockEnd t.kind then
      parseFail (some "while parsing a block mapping") (some (← topMark))
        ("expected <block end>, but found " ++ showKind t.kind) t.start
    else
      let t ← getToken
      popState
      popMark
      pure ⟨.mappingEnd, t.start, t.stop⟩

/-- The next event, without taking it. -/
def peekEvent : ParseM (Option Event) := do
  let p ← get
  match p.current with
  | some e => pure (some e)
  | none =>
    let e ← produceEvent
    modify fun p => { p with current := e }
    pure e

/-- Takes the next event. -/
def takeEvent : ParseM (Option Event) := do
  let e ← peekEvent
  modify fun p => { p with current := none }
  pure e

end HiveDdl.Yaml
