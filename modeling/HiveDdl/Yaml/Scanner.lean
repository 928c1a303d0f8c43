import HiveDdl.Yaml.Token
import HiveDdl.Text.Utf8
import HiveDdl.Text.Surrogate
/-!
# Scanning YAML texts

The scanner reads a YAML text (followed by the end marker `'\x00'`) into tokens on demand: the
parser asks for the next token, and the scanner reads just far enough to know it. That is
usually one token, but a token that may be a simple key (`key: value`, where nothing before
the key marks it as one) keeps the scanner reading until the `:` shows up or the key can no
longer be one (a line break, or more than 1024 characters). Then the `KEY` token, and for a new
block mapping its start, is put in front of the key's tokens. Problems are found in reading
order, so how far the scanner has read decides which problem of a text is reported.

Indentation opens and closes block collections: a block entry (`- `), key (`? `) or value
(`: `) further right than the current indentation opens one, and a token further left closes
the collections it leaves. In flow collections (`[...]`, `{...}`) indentation does not count.

Scalars are read into their values: plain scalars fold line breaks into spaces, quoted scalars
handle escapes (double quotes) and doubled quotes (single quotes), and block scalars (`|`, `>`)
keep or fold lines by their indentation and chomping indicators.

* `Scanner.start text`: a scanner at the start of a text.
* `peekToken`, `takeToken`: the next token, without or with taking it.
-/

namespace HiveDdl.Yaml

/-- A place where a simple key may start: the number of its first token, whether it must be
a key (a block key at the indentation), and where it is. -/
structure SimpleKey where
  tokenNumber : Nat
  required : Bool
  index : Nat
  line : Nat
  mark : Mark
deriving Repr

/-- The state of the scanner. -/
structure Scanner where
  buf : Array Char
  index : Nat
  line : Nat
  column : Nat
  /-- The end of the stream has been read. -/
  done : Bool
  /-- How many flow collections are open (may go below zero on stray closing brackets). -/
  flowLevel : Int
  /-- Tokens read and not yet taken. -/
  queue : List Token
  /-- How many tokens have been taken. -/
  taken : Nat
  indent : Int
  indents : List Int
  allowSimpleKey : Bool
  /-- The possible simple key of each flow level, oldest first. -/
  keys : List (Int × SimpleKey)
deriving Repr

abbrev ScanM := StateT Scanner (Except LoadError)

def isBreak (c : Char) : Bool :=
  c = '\r' || c = '\n' || c = '\x85' || c = '\u2028' || c = '\u2029'

def isBreakZ (c : Char) : Bool := c = '\x00' || isBreak c

def isBlankZ (c : Char) : Bool := c = ' ' || c = '\t' || isBreakZ c

def isSpaceZ (c : Char) : Bool := c = ' ' || isBreakZ c

def isWordChar (c : Char) : Bool :=
  (c.toNat < 0x80 && c.isAlphanum) || c = '-' || c = '_'

def isHexChar (c : Char) : Bool :=
  c.toNat < 0x80 && (c.isDigit || ('a' ≤ c && c ≤ 'f') || ('A' ≤ c && c ≤ 'F'))

def hexValue (c : Char) : Nat :=
  if c.isDigit then c.toNat - 48 else if c ≤ 'F' then c.toNat - 55 else c.toNat - 87

def isUriChar (c : Char) : Bool :=
  (c.toNat < 0x80 && c.isAlphanum) || "-;/?:@&=+$,_.!~*\x27()[]%".contains c

def showChar (c : Char) : String := Text.quoted c.toString

/-- Moves `k` characters on from a place, keeping line and column: a line break (carriage
return only when no line feed follows) starts a new line; a byte order mark takes no column. -/
def advance (buf : Array Char) : Nat → Nat → Nat → Nat → Nat × Nat × Nat
  | 0, i, l, c => (i, l, c)
  | k + 1, i, l, c =>
    let ch := buf.getD i '\x00'
    if ch = '\n' ∨ ch = '\x85' ∨ ch = '\u2028' ∨ ch = '\u2029' ∨
        (ch = '\r' ∧ buf.getD (i + 1) '\x00' ≠ '\n') then
      advance buf k (i + 1) (l + 1) 0
    else if ch = '\uFEFF' then advance buf k (i + 1) l c
    else advance buf k (i + 1) l (c + 1)

def spanFrom (buf : Array Char) (p : Char → Bool) (i : Nat) : Nat :=
  if h : i < buf.size then
    if p buf[i] then spanFrom buf p (i + 1) else i
  else i
termination_by buf.size - i

namespace Scanner

def start (text : String) : Scanner :=
  let m : Mark := ⟨0, 0, 0⟩
  { buf := buffer text, index := 0, line := 0, column := 0, done := false, flowLevel := 0,
    queue := [⟨.streamStart, m, m⟩], taken := 0, indent := -1, indents := [],
    allowSimpleKey := true, keys := [] }

def peekAt (s : Scanner) (k : Nat) : Char := s.buf.getD (s.index + k) '\x00'

def countFrom (s : Scanner) (k : Nat) (p : Char → Bool) : Nat :=
  spanFrom s.buf p (s.index + k) - (s.index + k)

def ahead (s : Scanner) (k : Nat) : String :=
  String.ofList (s.buf.extract s.index (s.index + k)).toList

def mark (s : Scanner) : Mark := ⟨s.index, s.line, s.column⟩

def nextKeyNumber (s : Scanner) : Option Nat :=
  s.keys.foldl (fun acc (_, k) => match acc with
    | some n => some (min n k.tokenNumber)
    | none => some k.tokenNumber) none

end Scanner

def peek (k : Nat) : ScanM Char := do pure ((← get).peekAt k)

def here : ScanM Mark := do pure (← get).mark

def forward (k : Nat) : ScanM Unit :=
  modify fun s =>
    let (i, l, c) := advance s.buf k s.index s.line s.column
    { s with index := i, line := l, column := c }

def takeText (k : Nat) : ScanM String := do
  let t := (← get).ahead k
  forward k
  pure t

def skipWhile (p : Char → Bool) : ScanM Unit := do
  forward ((← get).countFrom 0 p)

def failHere {α : Type} (context : Option String) (contextMark : Option Mark) (problem : String) :
    ScanM α := do
  throw (.marked ⟨context, contextMark, problem, (← get).mark⟩)

def pushToken (t : Token) : ScanM Unit :=
  modify fun s => { s with queue := s.queue ++ [t] }

/-- Reads a line break, if one is next: carriage return and line feed, either alone, or next
line, read as a line feed; the line and paragraph separators read as themselves. -/
def scanLineBreak : ScanM String := do
  let c ← peek 0
  if c = '\r' ∨ c = '\n' ∨ c = '\x85' then
    if c = '\r' ∧ (← peek 1) = '\n' then forward 2 else forward 1
    pure "\n"
  else if c = '\u2028' ∨ c = '\u2029' then
    forward 1
    pure c.toString
  else pure ""

/-! ## Simple keys and indentation -/

def staleKeys : ScanM Unit := do
  let s ← get
  let mut kept : List (Int × SimpleKey) := []
  for (level, k) in s.keys do
    if k.line ≠ s.line ∨ s.index - k.index > 1024 then
      if k.required then
        throw (.marked ⟨some "while scanning a simple key", some k.mark,
          "could not find expected ':'", s.mark⟩)
    else kept := kept ++ [(level, k)]
  set { s with keys := kept }

def removeKey : ScanM Unit := do
  let s ← get
  match s.keys.find? (·.1 = s.flowLevel) with
  | some (_, k) =>
    if k.required then
      throw (.marked ⟨some "while scanning a simple key", some k.mark,
        "could not find expected ':'", s.mark⟩)
    set { s with keys := s.keys.filter (·.1 ≠ s.flowLevel) }
  | none => pure ()

def saveKey : ScanM Unit := do
  let s ← get
  let required := s.flowLevel = 0 ∧ s.indent = s.column
  if s.allowSimpleKey then
    removeKey
    let s ← get
    let k : SimpleKey := ⟨s.taken + s.queue.length, required, s.index, s.line, s.mark⟩
    set { s with keys := s.keys ++ [(s.flowLevel, k)] }

def unwindIndent (column : Int) : ScanM Unit := do
  let s ← get
  if s.flowLevel ≠ 0 then return
  let m := s.mark
  let rec close : List Int → Int → List Token → Nat → (List Int × Int × List Token)
    | indents, indent, acc, 0 => (indents, indent, acc)
    | indents, indent, acc, fuel + 1 =>
      if indent > column then
        match indents with
        | i :: rest => close rest i (acc ++ [⟨.blockEnd, m, m⟩]) fuel
        | [] => (indents, indent, acc)
      else (indents, indent, acc)
  let (indents, indent, ends) := close s.indents s.indent [] (s.indents.length + 1)
  set { s with indents := indents, indent := indent, queue := s.queue ++ ends }

def addIndent (column : Int) : ScanM Bool := do
  let s ← get
  if s.indent < column then
    set { s with indents := s.indent :: s.indents, indent := column }
    pure true
  else pure false

def allowKey (b : Bool) : ScanM Unit :=
  modify fun s => { s with allowSimpleKey := b }

/-! ## Directives, anchors and tags -/

def scanTagHandle (name : String) (start : Mark) : ScanM String := do
  let c ← peek 0
  if c ≠ '!' then
    failHere (some ("while scanning a " ++ name)) (some start) ("expected '!', but found " ++ showChar c)
  let c1 ← peek 1
  let length ← if c1 ≠ ' ' then do
      let n := (← get).countFrom 1 isWordChar
      let c' ← peek (1 + n)
      if c' ≠ '!' then
        forward (1 + n)
        failHere (some ("while scanning a " ++ name)) (some start)
          ("expected '!', but found " ++ showChar c')
      pure (n + 2)
    else pure 1
  takeText length

def scanUriEscapes (name : String) (start : Mark) : ScanM String := do
  let m ← here
  let rec collect : Nat → List UInt8 → ScanM (List UInt8)
    | 0, acc => pure acc
    | fuel + 1, acc => do
      if (← peek 0) ≠ '%' then return acc
      forward 1
      let a ← peek 0
      if !isHexChar a then
        failHere (some ("while scanning a " ++ name)) (some start)
          ("expected URI escape sequence of 2 hexadecimal numbers, but found " ++ showChar a)
      let b ← peek 1
      if !isHexChar b then
        failHere (some ("while scanning a " ++ name)) (some start)
          ("expected URI escape sequence of 2 hexadecimal numbers, but found " ++ showChar b)
      forward 2
      collect fuel (acc ++ [(hexValue a * 16 + hexValue b).toUInt8])
  let codes ← collect ((← get).buf.size + 1) []
  match Text.decodeUtf8 codes.toArray with
  | .ok t => pure t
  | .error e => throw (.marked ⟨some ("while scanning a " ++ name), some start, e.message, m⟩)

def scanTagUri (name : String) (start : Mark) : ScanM String := do
  let rec chunks : Nat → List String → Bool → ScanM (List String × Bool)
    | 0, acc, any => pure (acc, any)
    | fuel + 1, acc, any => do
      let n := (← get).countFrom 0 fun c => isUriChar c && c ≠ '%'
      if (← peek n) = '%' then
        let t ← takeText n
        let e ← scanUriEscapes name start
        chunks fuel (acc ++ [t, e]) true
      else if n > 0 then
        let t ← takeText n
        pure (acc ++ [t], true)
      else pure (acc, any)
  let (parts, any) ← chunks ((← get).buf.size + 1) [] false
  if !any then
    failHere (some ("while parsing a " ++ name)) (some start)
      ("expected URI, but found " ++ showChar (← peek 0))
  pure (String.join parts)

def scanDirectiveIgnoredLine (start : Mark) : ScanM Unit := do
  skipWhile (· = ' ')
  if (← peek 0) = '#' then skipWhile (!isBreakZ ·)
  let c ← peek 0
  if !isBreakZ c then
    failHere (some "while scanning a directive") (some start)
      ("expected a comment or a line break, but found " ++ showChar c)
  discard scanLineBreak

def scanVersionNumber (start : Mark) : ScanM Nat := do
  let c ← peek 0
  if !c.isDigit then
    failHere (some "while scanning a directive") (some start) ("expected a digit, but found " ++ showChar c)
  let n := (← get).countFrom 0 Char.isDigit
  let t ← takeText n
  pure (t.foldl (fun acc d => acc * 10 + (d.toNat - 48)) 0)

def scanDirective : ScanM Token := do
  let start ← here
  forward 1
  let n := (← get).countFrom 0 isWordChar
  if n = 0 then
    failHere (some "while scanning a directive") (some start)
      ("expected alphabetic or numeric character, but found " ++ showChar (← peek 0))
  let name ← takeText n
  let c ← peek 0
  if !isSpaceZ c then
    failHere (some "while scanning a directive") (some start)
      ("expected alphabetic or numeric character, but found " ++ showChar c)
  let value ← if name = "YAML" then do
      skipWhile (· = ' ')
      let major ← scanVersionNumber start
      let c ← peek 0
      if c ≠ '.' then
        failHere (some "while scanning a directive") (some start)
          ("expected a digit or '.', but found " ++ showChar c)
      forward 1
      let minor ← scanVersionNumber start
      let c ← peek 0
      if !isSpaceZ c then
        failHere (some "while scanning a directive") (some start)
          ("expected a digit or ' ', but found " ++ showChar c)
      pure (DirectiveValue.version major minor)
    else if name = "TAG" then do
      skipWhile (· = ' ')
      let handle ← scanTagHandle "directive" start
      let c ← peek 0
      if c ≠ ' ' then
        failHere (some "while scanning a directive") (some start)
          ("expected ' ', but found " ++ showChar c)
      skipWhile (· = ' ')
      let pfx ← scanTagUri "directive" start
      let c ← peek 0
      if !isSpaceZ c then
        failHere (some "while scanning a directive") (some start)
          ("expected ' ', but found " ++ showChar c)
      pure (DirectiveValue.tagPrefix handle pfx)
    else pure DirectiveValue.other
  let stop ← here
  if value = .other then skipWhile (!isBreakZ ·)
  scanDirectiveIgnoredLine start
  pure ⟨.directive name value, start, stop⟩

def scanAnchor (isAlias : Bool) : ScanM Token := do
  let start ← here
  let what := if isAlias then "alias" else "anchor"
  forward 1
  let n := (← get).countFrom 0 isWordChar
  if n = 0 then
    failHere (some ("while scanning an " ++ what)) (some start)
      ("expected alphabetic or numeric character, but found " ++ showChar (← peek 0))
  let name ← takeText n
  let c ← peek 0
  if !(isBlankZ c || "?:,]\x7d%@`".contains c) then
    failHere (some ("while scanning an " ++ what)) (some start)
      ("expected alphabetic or numeric character, but found " ++ showChar c)
  let stop ← here
  pure ⟨if isAlias then .alias name else .anchor name, start, stop⟩

def handleAhead (s : Scanner) : Bool :=
  s.peekAt (1 + s.countFrom 1 fun c => !isSpaceZ c && c ≠ '!') = '!'

def scanTag : ScanM Token := do
  let start ← here
  let c ← peek 1
  let (handle, suffix) ← if c = '<' then do
      forward 2
      let suffix ← scanTagUri "tag" start
      let c ← peek 0
      if c ≠ '>' then
        failHere (some "while parsing a tag") (some start) ("expected '>', but found " ++ showChar c)
      forward 1
      pure (none, suffix)
    else if isBlankZ c then do
      forward 1
      pure (none, "!")
    else do
      let handle ← if handleAhead (← get) then scanTagHandle "tag" start
        else do forward 1; pure "!"
      let suffix ← scanTagUri "tag" start
      pure (some handle, suffix)
  let c ← peek 0
  if !isSpaceZ c then
    failHere (some "while scanning a tag") (some start) ("expected ' ', but found " ++ showChar c)
  let stop ← here
  pure ⟨.tag handle suffix, start, stop⟩

/-! ## Block scalars -/

/-- Reads the indicators of a block scalar: chomping (`+` keep, `-` strip) and an
indentation digit, in either order. -/
def scanBlockIndicators (start : Mark) : ScanM (Option Bool × Option Nat) := do
  let digit (c : Char) : ScanM (Option Nat) := do
    if c.isDigit then
      if c = '0' then
        failHere (some "while scanning a block scalar") (some start)
          "expected indentation indicator in the range 1-9, but found 0"
      forward 1
      pure (some (c.toNat - 48))
    else pure none
  let c ← peek 0
  let (chomping, increment) ← if c = '+' ∨ c = '-' then do
      forward 1
      let inc ← digit (← peek 0)
      pure (some (c == '+'), inc)
    else if c.isDigit then do
      let inc ← digit c
      let c' ← peek 0
      if c' = '+' ∨ c' = '-' then
        forward 1
        pure (some (c' == '+'), inc)
      else pure (none, inc)
    else pure (none, none)
  let c ← peek 0
  if !isSpaceZ c then
    failHere (some "while scanning a block scalar") (some start)
      ("expected chomping or indentation indicators, but found " ++ showChar c)
  pure (chomping, increment)

def scanBlockIgnoredLine (start : Mark) : ScanM Unit := do
  skipWhile (· = ' ')
  if (← peek 0) = '#' then skipWhile (!isBreakZ ·)
  let c ← peek 0
  if !isBreakZ c then
    failHere (some "while scanning a block scalar") (some start)
      ("expected a comment or a line break, but found " ++ showChar c)
  discard scanLineBreak

/-- Reads the empty lines before a block scalar's first line, finding its indentation: the
line breaks, the widest indentation seen, and the place after the last break. -/
def scanBlockIndentation : ScanM (List String × Nat × Mark) := do
  let rec go : Nat → List String → Nat → Mark → ScanM (List String × Nat × Mark)
    | 0, breaks, widest, m => pure (breaks, widest, m)
    | fuel + 1, breaks, widest, m => do
      let c ← peek 0
      if c = ' ' then
        forward 1
        go fuel breaks (max widest (← get).column) m
      else if isBreak c then
        let b ← scanLineBreak
        go fuel (breaks ++ [b]) widest (← here)
      else pure (breaks, widest, m)
  go ((← get).buf.size + 1) [] 0 (← here)

def skipIndent (indent : Int) : ScanM Unit := do
  let s ← get
  let room := (indent - s.column).toNat
  forward (min room (s.countFrom 0 (· = ' ')))

def scanBlockBreaks (indent : Int) : ScanM (List String × Mark) := do
  let m ← here
  skipIndent indent
  let rec go : Nat → List String → Mark → ScanM (List String × Mark)
    | 0, breaks, m => pure (breaks, m)
    | fuel + 1, breaks, m => do
      if isBreak (← peek 0) then
        let b ← scanLineBreak
        let m' ← here
        skipIndent indent
        go fuel (breaks ++ [b]) m'
      else pure (breaks, m)
  go ((← get).buf.size + 1) [] m

/-- Reads the lines of a block scalar at its indentation, folding them when `folded`. Returns
the text so far, the last line break, the breaks after it and the end place. -/
def scanBlockLines (folded : Bool) (indent : Int) :
    Nat → List String → String → List String → Mark →
      ScanM (List String × String × List String × Mark)
  | 0, chunks, lineBreak, breaks, m => pure (chunks, lineBreak, breaks, m)
  | fuel + 1, chunks, lineBreak, breaks, m => do
    let s ← get
    if !(s.column = indent ∧ s.peekAt 0 ≠ '\x00') then return (chunks, lineBreak, breaks, m)
    let leadingNonSpace := s.peekAt 0 ≠ ' ' ∧ s.peekAt 0 ≠ '\t'
    let text ← takeText (s.countFrom 0 (!isBreakZ ·))
    let lineBreak' ← scanLineBreak
    let (breaks', m') ← scanBlockBreaks indent
    let chunks := chunks ++ breaks ++ [text]
    let s ← get
    if s.column = indent ∧ s.peekAt 0 ≠ '\x00' then
      let joint :=
        if folded ∧ lineBreak' = "\n" ∧ leadingNonSpace ∧ s.peekAt 0 ≠ ' ' ∧ s.peekAt 0 ≠ '\t' then
          (if breaks'.isEmpty then [" "] else [])
        else [lineBreak']
      scanBlockLines folded indent fuel (chunks ++ joint) lineBreak' breaks' m'
    else pure (chunks, lineBreak', breaks', m')

def scanBlockScalar (folded : Bool) : ScanM Token := do
  let start ← here
  forward 1
  let (chomping, increment) ← scanBlockIndicators start
  scanBlockIgnoredLine start
  let minIndent : Int := max ((← get).indent + 1) 1
  let (breaks, indent, m) ← match increment with
    | none => do
      let (b, widest, m) ← scanBlockIndentation
      pure (b, max minIndent (widest : Int), m)
    | some inc => do
      let ind := minIndent + inc - 1
      let (b, m) ← scanBlockBreaks ind
      pure (b, ind, m)
  let (chunks, lineBreak, breaks, m) ←
    scanBlockLines folded indent ((← get).buf.size + 1) [] "" breaks m
  let chunks := if chomping ≠ some false then chunks ++ [lineBreak] else chunks
  let chunks := if chomping = some true then chunks ++ breaks else chunks
  pure ⟨.scalar (String.join chunks) false, start, m⟩

/-! ## Flow scalars -/

def escapeReplacement (c : Char) : Option Char :=
  match c with
  | '0' => some '\x00'
  | 'a' => some '\x07'
  | 'b' => some '\x08'
  | 't' => some '\t'
  | '\t' => some '\t'
  | 'n' => some '\n'
  | 'v' => some '\x0B'
  | 'f' => some '\x0C'
  | 'r' => some '\r'
  | 'e' => some '\x1B'
  | ' ' => some ' '
  | '"' => some '"'
  | '\\' => some '\\'
  | '/' => some '/'
  | 'N' => some '\x85'
  | '_' => some '\xA0'
  | 'L' => some '\u2028'
  | 'P' => some '\u2029'
  | _ => none

def escapeCodeLength (c : Char) : Option Nat :=
  match c with
  | 'x' => some 2
  | 'u' => some 4
  | 'U' => some 8
  | _ => none

def atDocumentSeparator (s : Scanner) : Bool :=
  (s.ahead 3 = "---" ∨ s.ahead 3 = "...") ∧ isBlankZ (s.peekAt 3)

def scanFlowBreaks (start : Mark) : Nat → List String → ScanM (List String)
  | 0, acc => pure acc
  | fuel + 1, acc => do
    if atDocumentSeparator (← get) then
      failHere (some "while scanning a quoted scalar") (some start) "found unexpected document separator"
    skipWhile fun c => c = ' ' || c = '\t'
    if isBreak (← peek 0) then
      let b ← scanLineBreak
      scanFlowBreaks start fuel (acc ++ [b])
    else pure acc

def scanFlowNonSpaces (double : Bool) (start : Mark) : Nat → List String → ScanM (List String)
  | 0, acc => pure acc
  | fuel + 1, acc => do
    let n := (← get).countFrom 0 fun c => !(c = '\'' || c = '"' || c = '\\' || isBlankZ c)
    let acc ← if n > 0 then do pure (acc ++ [← takeText n]) else pure acc
    let c ← peek 0
    if !double ∧ c = '\'' ∧ (← peek 1) = '\'' then
      forward 2
      scanFlowNonSpaces double start fuel (acc ++ ["'"])
    else if (double ∧ c = '\'') ∨ (!double ∧ (c = '"' ∨ c = '\\')) then
      forward 1
      scanFlowNonSpaces double start fuel (acc ++ [c.toString])
    else if double ∧ c = '\\' then
      forward 1
      let e ← peek 0
      match escapeReplacement e, escapeCodeLength e with
      | some r, _ =>
        forward 1
        scanFlowNonSpaces double start fuel (acc ++ [r.toString])
      | none, some len =>
        forward 1
        let s ← get
        match (List.range len).find? (fun k => !isHexChar (s.peekAt k)) with
        | some k =>
          failHere (some "while scanning a double-quoted scalar") (some start)
            ("expected escape sequence of " ++ toString len ++
              " hexadecimal numbers, but found " ++ showChar (s.peekAt k))
        | none =>
          let digits ← takeText len
          let code := digits.foldl (fun v d => v * 16 + hexValue d) 0
          if code ≥ 0x110000 then throw (.failure "ValueError" "chr() arg not in range(0x110000)")
          let ch := if 0xD800 ≤ code ∧ code ≤ 0xDFFF then Text.standIn code else Char.ofNat code
          scanFlowNonSpaces double start fuel (acc ++ [ch.toString])
      | none, none =>
        if isBreak e then
          discard scanLineBreak
          let bs ← scanFlowBreaks start ((← get).buf.size + 1) []
          scanFlowNonSpaces double start fuel (acc ++ bs)
        else
          failHere (some "while scanning a double-quoted scalar") (some start)
            ("found unknown escape character " ++ showChar e)
    else pure acc

def scanFlowSpaces (start : Mark) : ScanM (List String) := do
  let n := (← get).countFrom 0 fun c => c = ' ' || c = '\t'
  let spaces ← takeText n
  let c ← peek 0
  if c = '\x00' then
    failHere (some "while scanning a quoted scalar") (some start) "found unexpected end of stream"
  else if isBreak c then
    let lineBreak ← scanLineBreak
    let breaks ← scanFlowBreaks start ((← get).buf.size + 1) []
    let first := if lineBreak ≠ "\n" then [lineBreak] else if breaks.isEmpty then [" "] else []
    pure (first ++ breaks)
  else pure [spaces]

def scanFlowScalar (double : Bool) : ScanM Token := do
  let start ← here
  let quote ← peek 0
  forward 1
  let fuel := (← get).buf.size + 1
  let first ← scanFlowNonSpaces double start fuel []
  let rec more : Nat → List String → ScanM (List String)
    | 0, acc => pure acc
    | n + 1, acc => do
      if (← peek 0) = quote then return acc
      let sp ← scanFlowSpaces start
      let ns ← scanFlowNonSpaces double start fuel []
      more n (acc ++ sp ++ ns)
  let chunks ← more fuel first
  forward 1
  let stop ← here
  pure ⟨.scalar (String.join chunks) false, start, stop⟩

/-! ## Plain scalars -/

/-- How many characters of a plain scalar's next word: up to a blank, a `:` followed by a
blank (or a flow indicator in flow context), or in flow context one of `,?[]{}`. -/
def plainWordLength (s : Scanner) (i : Nat) : Nat :=
  if h : i < s.buf.size then
    let c := s.buf[i]
    let next := s.buf.getD (i + 1) '\x00'
    let flow := s.flowLevel ≠ 0
    if isBlankZ c ∨ (c = ':' ∧ (isBlankZ next ∨ (flow ∧ ",[]\x7b\x7d".contains next))) ∨
        (flow ∧ ",?[]\x7b\x7d".contains c) then i - s.index
    else plainWordLength s (i + 1)
  else i - s.index
termination_by s.buf.size - i

/-- Reads the white space after a word of a plain scalar: spaces kept, line breaks folded.
Returns none at a document separator; a line break allows a simple key again. -/
def scanPlainSpaces : ScanM (Option (List String)) := do
  let n := (← get).countFrom 0 (· = ' ')
  let spaces ← takeText n
  let c ← peek 0
  if isBreak c then
    let lineBreak ← scanLineBreak
    allowKey true
    if atDocumentSeparator (← get) then return none
    let rec gather : Nat → List String → ScanM (Option (List String))
      | 0, breaks => pure (some breaks)
      | fuel + 1, breaks => do
        let c ← peek 0
        if c = ' ' then
          forward 1
          gather fuel breaks
        else if isBreak c then
          let b ← scanLineBreak
          if atDocumentSeparator (← get) then return none
          gather fuel (breaks ++ [b])
        else pure (some breaks)
    match ← gather ((← get).buf.size + 1) [] with
    | none => pure none
    | some breaks =>
      let first := if lineBreak ≠ "\n" then [lineBreak] else if breaks.isEmpty then [" "] else []
      pure (some (first ++ breaks))
  else if spaces.isEmpty then pure (some [])
  else pure (some [spaces])

/-- Reads a plain scalar: words separated by white space, ending before a comment, a `: `,
a flow indicator in flow context, or a line indented less than the current block. -/
def scanPlain : ScanM Token := do
  let start ← here
  let indent : Int := (← get).indent + 1
  let rec words : Nat → List String → List String → Mark → ScanM (List String × Mark)
    | 0, chunks, _, m => pure (chunks, m)
    | fuel + 1, chunks, spaces, m => do
      if (← peek 0) = '#' then return (chunks, m)
      let s ← get
      let n := plainWordLength s s.index
      if n = 0 then return (chunks, m)
      allowKey false
      let word ← takeText n
      let chunks := chunks ++ spaces ++ [word]
      let m ← here
      match ← scanPlainSpaces with
      | none => pure (chunks, m)
      | some sp =>
        let s ← get
        if sp.isEmpty ∨ s.peekAt 0 = '#' ∨ (s.flowLevel = 0 ∧ (s.column : Int) < indent) then
          pure (chunks, m)
        else words fuel chunks sp m
  let (chunks, m) ← words ((← get).buf.size + 1) [] [] start
  pure ⟨.scalar (String.join chunks) true, start, m⟩

/-! ## Fetching tokens -/

/-- Reads white space, comments and line breaks up to the next token; a line break in block
context allows a simple key. A byte order mark at the very start is skipped. -/
def scanToNextToken : ScanM Unit := do
  let s ← get
  if s.index = 0 ∧ s.peekAt 0 = '\uFEFF' then forward 1
  let rec go : Nat → ScanM Unit
    | 0 => pure ()
    | fuel + 1 => do
      skipWhile (· = ' ')
      if (← peek 0) = '#' then skipWhile (!isBreakZ ·)
      if (← scanLineBreak) ≠ "" then
        if (← get).flowLevel = 0 then allowKey true
        go fuel
  go ((← get).buf.size + 1)

def singleToken (kind : TokenKind) : ScanM Unit := do
  let start ← here
  forward 1
  pushToken ⟨kind, start, ← here⟩

def fetchStreamEnd : ScanM Unit := do
  unwindIndent (-1)
  removeKey
  let m ← here
  modify fun s => { s with allowSimpleKey := false, keys := [], done := true }
  pushToken ⟨.streamEnd, m, m⟩

def fetchDocumentIndicator (kind : TokenKind) : ScanM Unit := do
  unwindIndent (-1)
  removeKey
  allowKey false
  let start ← here
  forward 3
  pushToken ⟨kind, start, ← here⟩

def fetchFlowCollectionStart (kind : TokenKind) : ScanM Unit := do
  saveKey
  modify fun s => { s with flowLevel := s.flowLevel + 1, allowSimpleKey := true }
  singleToken kind

def fetchFlowCollectionEnd (kind : TokenKind) : ScanM Unit := do
  removeKey
  modify fun s => { s with flowLevel := s.flowLevel - 1, allowSimpleKey := false }
  singleToken kind

def fetchBlockEntry : ScanM Unit := do
  let s ← get
  if s.flowLevel = 0 then
    if !s.allowSimpleKey then failHere none none "sequence entries are not allowed here"
    if ← addIndent s.column then
      let m ← here
      pushToken ⟨.blockSequenceStart, m, m⟩
  allowKey true
  removeKey
  singleToken .blockEntry

def fetchKey : ScanM Unit := do
  let s ← get
  if s.flowLevel = 0 then
    if !s.allowSimpleKey then failHere none none "mapping keys are not allowed here"
    if ← addIndent s.column then
      let m ← here
      pushToken ⟨.blockMappingStart, m, m⟩
  allowKey (s.flowLevel = 0)
  removeKey
  singleToken .key

def insertToken (number : Nat) (t : Token) : ScanM Unit :=
  modify fun s =>
    let pos := number - s.taken
    { s with queue := s.queue.take pos ++ [t] ++ s.queue.drop pos }

def fetchValue : ScanM Unit := do
  let s ← get
  match s.keys.find? (·.1 = s.flowLevel) with
  | some (_, k) =>
    set { s with keys := s.keys.filter (·.1 ≠ s.flowLevel) }
    insertToken k.tokenNumber ⟨.key, k.mark, k.mark⟩
    if s.flowLevel = 0 then
      if ← addIndent k.mark.column then
        insertToken k.tokenNumber ⟨.blockMappingStart, k.mark, k.mark⟩
    allowKey false
  | none =>
    if s.flowLevel = 0 then
      if !s.allowSimpleKey then failHere none none "mapping values are not allowed here"
      if ← addIndent s.column then
        let m ← here
        pushToken ⟨.blockMappingStart, m, m⟩
    allowKey (s.flowLevel = 0)
    removeKey
  singleToken .value

def checkPlain (s : Scanner) : Bool :=
  let c := s.peekAt 0
  !(isBlankZ c || "-?:,[]\x7b\x7d#&*!|>\x27\"%@`".contains c) ||
    (!isBlankZ (s.peekAt 1) && (c = '-' || (s.flowLevel = 0 && (c = '?' || c = ':'))))

def fetchMoreTokens : ScanM Unit := do
  scanToNextToken
  staleKeys
  unwindIndent (← get).column
  let s ← get
  let c := s.peekAt 0
  let blankNext := isBlankZ (s.peekAt 1)
  let flow := s.flowLevel ≠ 0
  if c = '\x00' then fetchStreamEnd
  else if c = '%' ∧ s.column = 0 then
    unwindIndent (-1)
    removeKey
    allowKey false
    pushToken (← scanDirective)
  else if c = '-' ∧ s.column = 0 ∧ s.ahead 3 = "---" ∧ isBlankZ (s.peekAt 3) then
    fetchDocumentIndicator .documentStart
  else if c = '.' ∧ s.column = 0 ∧ s.ahead 3 = "..." ∧ isBlankZ (s.peekAt 3) then
    fetchDocumentIndicator .documentEnd
  else if c = '[' then fetchFlowCollectionStart .flowSequenceStart
  else if c = '{' then fetchFlowCollectionStart .flowMappingStart
  else if c = ']' then fetchFlowCollectionEnd .flowSequenceEnd
  else if c = '}' then fetchFlowCollectionEnd .flowMappingEnd
  else if c = ',' then
    allowKey true
    removeKey
    singleToken .flowEntry
  else if c = '-' ∧ blankNext then fetchBlockEntry
  else if c = '?' ∧ (flow ∨ blankNext) then fetchKey
  else if c = ':' ∧ (flow ∨ blankNext) then fetchValue
  else if c = '*' ∨ c = '&' then
    saveKey
    allowKey false
    pushToken (← scanAnchor (c = '*'))
  else if c = '!' then
    saveKey
    allowKey false
    pushToken (← scanTag)
  else if (c = '|' ∨ c = '>') ∧ !flow then
    allowKey true
    removeKey
    pushToken (← scanBlockScalar (c = '>'))
  else if c = '\'' ∨ c = '"' then
    saveKey
    allowKey false
    pushToken (← scanFlowScalar (c = '"'))
  else if checkPlain s then
    saveKey
    allowKey false
    pushToken (← scanPlain)
  else
    failHere (some "while scanning for the next token") none
      ("found character " ++ showChar c ++ " that cannot start any token")

/-- Whether the scanner must read on before the next token is known: the queue is empty, or
its first token may still turn out to follow an inferred key. -/
def needMoreTokens : ScanM Bool := do
  let s ← get
  if s.done then return false
  if s.queue.isEmpty then return true
  staleKeys
  let s ← get
  pure (s.nextKeyNumber = some s.taken)

def fillQueue : ScanM Unit := do
  let rec go : Nat → ScanM Unit
    | 0 => pure ()
    | fuel + 1 => do
      if ← needMoreTokens then
        fetchMoreTokens
        go fuel
  go (2 * (← get).buf.size + 4)

/-- The next token, without taking it. -/
def peekToken : ScanM (Option Token) := do
  fillQueue
  pure (← get).queue.head?

/-- Takes the next token. -/
def takeToken : ScanM (Option Token) := do
  fillQueue
  let s ← get
  match s.queue with
  | t :: rest =>
    set { s with queue := rest, taken := s.taken + 1 }
    pure (some t)
  | [] => pure none

end HiveDdl.Yaml
