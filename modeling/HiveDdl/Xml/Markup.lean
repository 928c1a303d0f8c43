import HiveDdl.Xml.NameTable
/-!
# XML markup

The lexical layer of the XML reader: character classes, the problems a text can have with their
wording, and scanners for the pieces of markup (names, references, tags, comments, processing
instructions, character sections and literals).

Every scanner reads from a position (`offset`, counted in characters) and either returns what it
read with the position and text after it, or stops (`ScanStop`): at an offending character, or
because the text ends inside the piece. The reader turns the first kind into "not well-formed"
at that character, the second into "unclosed token" at the start of the piece.

* `isNameStart`, `isNameChar`, `isXmlChar`, `isSpace`: character classes.
* `Problem.text`, `XmlError.message`: the wording, with line (from one) and column (from zero).
-/

namespace HiveDdl.Xml

def inRangeTable (rs : Array (Nat × Nat)) (n : Nat) : Bool :=
  rs.any fun r => r.1 ≤ n && n ≤ r.2

/-- Characters that may start a name: ASCII letters, `_`, `:` and the letters of the table. -/
def isNameStart (c : Char) : Bool :=
  let n := c.toNat
  if n < 0x80 then c.isAlpha || c = '_' || c = ':'
  else n < 0x10000 && inRangeTable nameStartRanges n

/-- Characters that may continue a name: name starts, ASCII digits, `.`, `-` and the table. -/
def isNameChar (c : Char) : Bool :=
  let n := c.toNat
  if n < 0x80 then c.isAlphanum || c = '_' || c = ':' || c = '.' || c = '-'
  else n < 0x10000 && inRangeTable nameRanges n

/-- Characters an XML text may hold: no control character but tab, line feed and carriage
return, and neither `U+FFFE` nor `U+FFFF`. -/
def isXmlChar (c : Char) : Bool :=
  let n := c.toNat
  (n ≥ 0x20 || n = 0x9 || n = 0xA || n = 0xD) && n ≠ 0xFFFE && n ≠ 0xFFFF

/-- XML white space. -/
def isSpace (c : Char) : Bool :=
  c = ' ' || c = '\t' || c = '\n' || c = '\r'

/-- What is wrong with a text. -/
inductive Problem where
  | unexpectedToken
  | noElements
  | invalidToken
  | unclosedToken
  | tagMismatch
  | duplicateAttribute
  | junkAfterDocElement
  | paramEntityRef
  | undefinedEntity
  | badCharRef
  | misplacedXmlPi
  | unclosedCdata
  | xmlDecl
  | publicId
deriving Repr, DecidableEq

/-- The wording of a problem. -/
def Problem.text : Problem → String
  | .unexpectedToken => "syntax error"
  | .noElements => "no element found"
  | .invalidToken => "not well-formed (invalid token)"
  | .unclosedToken => "unclosed token"
  | .tagMismatch => "mismatched tag"
  | .duplicateAttribute => "duplicate attribute"
  | .junkAfterDocElement => "junk after document element"
  | .paramEntityRef => "illegal parameter entity reference"
  | .undefinedEntity => "undefined entity"
  | .badCharRef => "reference to invalid character number"
  | .misplacedXmlPi => "XML or text declaration not at start of entity"
  | .unclosedCdata => "unclosed CDATA section"
  | .xmlDecl => "XML declaration not well-formed"
  | .publicId => "illegal character(s) in public id"

/-- A problem at a character position. -/
structure XmlError where
  problem : Problem
  offset : Nat
deriving Repr, DecidableEq

/-- Line and column after reading some characters: a line feed, a carriage return, or the
two together, end a line. -/
def advancePosition : List Char → Nat → Nat → Nat × Nat
  | [], line, column => (line, column)
  | '\r' :: '\n' :: rest, line, _ => advancePosition rest (line + 1) 0
  | '\r' :: rest, line, _ => advancePosition rest (line + 1) 0
  | '\n' :: rest, line, _ => advancePosition rest (line + 1) 0
  | _ :: rest, line, column => advancePosition rest line (column + 1)

def lineColumn (text : List Char) (offset : Nat) : Nat × Nat :=
  advancePosition (text.take offset) 1 0

/-- The message of a problem in a text. -/
def XmlError.message (e : XmlError) (text : List Char) : String :=
  let (line, column) := lineColumn text e.offset
  s!"{e.problem.text}: line {line}, column {column}"

/-- Why a scanner stopped: at an offending character, or at the end of the text. -/
inductive ScanStop where
  | invalid (offset : Nat)
  | truncated
deriving Repr, DecidableEq

/-- What a scanner returns: the piece, the position after it and the rest of the text. -/
abbrev Scan (α : Type) := Except ScanStop (α × Nat × List Char)

def ScanStop.toError (start : Nat) : ScanStop → XmlError
  | .invalid offset => ⟨.invalidToken, offset⟩
  | .truncated => ⟨.unclosedToken, start⟩

def skipSpaces : Nat → List Char → Nat × List Char
  | o, c :: rest => if isSpace c then skipSpaces (o + 1) rest else (o, c :: rest)
  | o, [] => (o, [])

/-- A reference: to an entity by name, or to a character by number (none for a number that
names no XML character). -/
inductive Ref where
  | entity (name : String)
  | char (code : Option Nat)
deriving Repr, DecidableEq

def checkCharNumber (n : Nat) : Option Nat :=
  if n ≥ 0x110000 then none
  else if 0xD800 ≤ n ∧ n ≤ 0xDFFF then none
  else if n < 0x20 ∧ n ≠ 0x9 ∧ n ≠ 0xA ∧ n ≠ 0xD then none
  else if n = 0xFFFE ∨ n = 0xFFFF then none
  else some n

def digitIn (hex : Bool) (c : Char) : Option Nat :=
  if '0' ≤ c ∧ c ≤ '9' then some (c.toNat - '0'.toNat)
  else if hex ∧ 'a' ≤ c ∧ c ≤ 'f' then some (c.toNat - 'a'.toNat + 10)
  else if hex ∧ 'A' ≤ c ∧ c ≤ 'F' then some (c.toNat - 'A'.toNat + 10)
  else none

/-- Reads the digits of a character reference up to its semicolon; the value saturates at
`0x110000`, past every code point. -/
def charRefDigits (hex : Bool) (o : Nat) (acc : Nat) : List Char → Scan Nat
  | [] => .error .truncated
  | ';' :: rest => .ok (acc, o + 1, rest)
  | c :: rest =>
    match digitIn hex c with
    | some d => charRefDigits hex (o + 1) (min (acc * (if hex then 16 else 10) + d) 0x110000) rest
    | none => .error (.invalid o)

/-- Reads a character reference after `&#`: decimal digits, or `x` and hexadecimal digits, at
least one, then a semicolon. -/
def scanCharRef (o : Nat) : List Char → Scan Ref
  | [] => .error .truncated
  | 'x' :: rest =>
    match rest with
    | [] => .error .truncated
    | c :: _ =>
      if (digitIn true c).isSome then
        (charRefDigits true (o + 1) 0 rest).map fun (n, o', r) => (.char (checkCharNumber n), o', r)
      else .error (.invalid (o + 1))
  | c :: rest =>
    if (digitIn false c).isSome then
      (charRefDigits false o 0 (c :: rest)).map fun (n, o', r) =>
        (.char (checkCharNumber n), o', r)
    else .error (.invalid o)

def scanRef (o : Nat) : List Char → Scan Ref
  | [] => .error .truncated
  | '#' :: rest => scanCharRef (o + 1) rest
  | c :: rest =>
    if isNameStart c then
      let (more, after) := rest.span isNameChar
      let o' := o + 1 + more.length
      match after with
      | ';' :: r => .ok (.entity (String.ofList (c :: more)), o' + 1, r)
      | [] => .error .truncated
      | _ => .error (.invalid o')
    else .error (.invalid o)

def predefinedEntity : String → Option Char
  | "lt" => some '<'
  | "gt" => some '>'
  | "amp" => some '&'
  | "quot" => some '"'
  | "apos" => some '\''
  | _ => none

/-- Reads an attribute value up to its closing quote: no `<`, references well formed, only XML
characters. Returns the characters between the quotes as written. -/
def scanAttValue (quote : Char) : Nat → Nat → List Char → List Char → Scan (List Char)
  | 0, _, _, _ => .error .truncated
  | _ + 1, _, _, [] => .error .truncated
  | fuel + 1, o, acc, c :: rest =>
    if c = quote then .ok (acc.reverse, o + 1, rest)
    else if c = '<' then .error (.invalid o)
    else if c = '&' then
      match scanRef (o + 1) rest with
      | .ok (_, o', r) =>
        scanAttValue quote fuel o' ((rest.take (o' - o - 1)).reverse ++ '&' :: acc) r
      | .error e => .error e
    else if isXmlChar c then scanAttValue quote fuel (o + 1) (c :: acc) rest
    else .error (.invalid o)

/-- An attribute as written in a start tag: its name, the value between the quotes, and where
each starts. -/
structure RawAttr where
  name : String
  nameOffset : Nat
  raw : List Char
  rawOffset : Nat
deriving Repr

def scanSlashEnd (o : Nat) : List Char → Scan Unit
  | [] => .error .truncated
  | '>' :: rest => .ok ((), o + 1, rest)
  | _ :: _ => .error (.invalid o)

/-- Reads the attributes of a start tag from the first attribute name to the end of the tag.
Returns the attributes and whether the tag closes itself. -/
def scanAttributes : Nat → Nat → List RawAttr → List Char → Scan (List RawAttr × Bool)
  | 0, _, _, _ => .error .truncated
  | _ + 1, _, _, [] => .error .truncated
  | fuel + 1, o, acc, c :: rest =>
    let (more, afterName) := rest.span isNameChar
    let name := String.ofList (c :: more)
    let oName := o + 1 + more.length
    let (oEq, atEq) := match afterName with
      | d :: _ => if isSpace d then skipSpaces oName afterName else (oName, afterName)
      | [] => (oName, [])
    match atEq with
    | [] => .error .truncated
    | '=' :: afterEq =>
      let (oQ, atQ) := skipSpaces (oEq + 1) afterEq
      match atQ with
      | [] => .error .truncated
      | q :: inValue =>
        if q = '"' ∨ q = '\'' then
          match scanAttValue q (inValue.length + 1) (oQ + 1) [] inValue with
          | .error e => .error e
          | .ok (raw, oEnd, after) =>
            let acc := ⟨name, o, raw, oQ + 1⟩ :: acc
            match after with
            | [] => .error .truncated
            | '>' :: r => .ok ((acc.reverse, false), oEnd + 1, r)
            | '/' :: r => (scanSlashEnd (oEnd + 1) r).map fun (_, o', r') =>
                ((acc.reverse, true), o', r')
            | d :: _ =>
              if isSpace d then
                let (oN, atN) := skipSpaces oEnd after
                match atN with
                | [] => .error .truncated
                | '>' :: r => .ok ((acc.reverse, false), oN + 1, r)
                | '/' :: r => (scanSlashEnd (oN + 1) r).map fun (_, o', r') =>
                    ((acc.reverse, true), o', r')
                | e :: r =>
                  if isNameStart e then scanAttributes fuel oN acc (e :: r)
                  else .error (.invalid oN)
              else .error (.invalid oEnd)
        else .error (.invalid oQ)
    | _ :: _ => .error (.invalid oEq)

/-- A start tag: the element's name, its attributes, and whether it closes itself. -/
structure StartTag where
  name : String
  attrs : List RawAttr
  selfClosing : Bool
deriving Repr

def scanStartTag (o : Nat) : List Char → Scan StartTag
  | [] => .error .truncated
  | c :: rest =>
    if !isNameStart c then .error (.invalid o) else
    let (more, after) := rest.span isNameChar
    let name := String.ofList (c :: more)
    let oName := o + 1 + more.length
    match after with
    | [] => .error .truncated
    | '>' :: r => .ok (⟨name, [], false⟩, oName + 1, r)
    | '/' :: r => (scanSlashEnd (oName + 1) r).map fun (_, o', r') => (⟨name, [], true⟩, o', r')
    | d :: _ =>
      if isSpace d then
        let (oN, atN) := skipSpaces oName after
        match atN with
        | [] => .error .truncated
        | '>' :: r => .ok (⟨name, [], false⟩, oN + 1, r)
        | '/' :: r =>
          (scanSlashEnd (oN + 1) r).map fun (_, o', r') => (⟨name, [], true⟩, o', r')
        | e :: r =>
          if isNameStart e then
            (scanAttributes (atN.length + 1) oN [] (e :: r)).map fun ((attrs, closes), o', r') =>
              (⟨name, attrs, closes⟩, o', r')
          else .error (.invalid oN)
      else .error (.invalid oName)

def scanEndTag (o : Nat) : List Char → Scan String
  | [] => .error .truncated
  | c :: rest =>
    if !isNameStart c then .error (.invalid o) else
    let (more, after) := rest.span isNameChar
    let oName := o + 1 + more.length
    let name := String.ofList (c :: more)
    match after with
    | [] => .error .truncated
    | '>' :: r => .ok (name, oName + 1, r)
    | d :: _ =>
      if isSpace d then
        let (oN, atN) := skipSpaces oName after
        match atN with
        | [] => .error .truncated
        | '>' :: r => .ok (name, oN + 1, r)
        | _ :: _ => .error (.invalid oN)
      else .error (.invalid oName)

def scanCommentBody : Nat → List Char → Scan Unit
  | _, [] => .error .truncated
  | o, '-' :: rest =>
    match rest with
    | [] => .error .truncated
    | '-' :: after =>
      match after with
      | [] => .error .truncated
      | '>' :: r => .ok ((), o + 3, r)
      | _ :: _ => .error (.invalid (o + 2))
    | c :: r => scanCommentBody (o + 1) (c :: r)
  | o, c :: rest => if isXmlChar c then scanCommentBody (o + 1) rest else .error (.invalid o)

def scanComment (o : Nat) : List Char → Scan Unit
  | [] => .error .truncated
  | '-' :: rest => scanCommentBody (o + 1) rest
  | _ :: _ => .error (.invalid o)

def scanPiBody : Nat → List Char → List Char → Scan (List Char)
  | _, _, [] => .error .truncated
  | o, acc, '?' :: rest =>
    match rest with
    | [] => .error .truncated
    | '>' :: r => .ok (acc.reverse, o + 2, r)
    | c :: r => scanPiBody (o + 1) ('?' :: acc) (c :: r)
  | o, acc, c :: rest => if isXmlChar c then scanPiBody (o + 1) (c :: acc) rest
    else .error (.invalid o)

/-- A processing instruction: an ordinary one, or an XML declaration with its body. -/
inductive Instruction where
  | other
  | xmlDecl (body : List Char) (bodyOffset : Nat)
deriving Repr

def piTargetKind (target : List Char) : Option Bool :=
  match target with
  | [x, m, l] =>
    if (x = 'x' ∨ x = 'X') ∧ (m = 'm' ∨ m = 'M') ∧ (l = 'l' ∨ l = 'L') then
      some (x = 'x' ∧ m = 'm' ∧ l = 'l')
    else none
  | _ => none

/-- Reads a processing instruction after `<?`: a target name, then white space and a body, or
`?>` at once. -/
def scanPi (o : Nat) : List Char → Scan Instruction
  | [] => .error .truncated
  | c :: rest =>
    if !isNameStart c then .error (.invalid o) else
    let (more, after) := rest.span isNameChar
    let target := c :: more
    let oName := o + 1 + more.length
    let kind := piTargetKind target
    match after with
    | [] => .error .truncated
    | '?' :: r =>
      if kind = some false then .error (.invalid oName) else
      match r with
      | [] => .error .truncated
      | '>' :: r' =>
        .ok ((if kind = some true then .xmlDecl [] oName else .other), oName + 2, r')
      | _ :: _ => .error (.invalid (oName + 1))
    | d :: r =>
      if isSpace d then
        if kind = some false then .error (.invalid oName) else
        (scanPiBody (oName + 1) [] r).map fun (body, o', r') =>
          ((if kind = some true then .xmlDecl (d :: body) oName else .other), o', r')
      else .error (.invalid oName)

def scanCdataOpen (o : Nat) (cs : List Char) : Scan Unit :=
  if cs.length < 6 then .error .truncated else
  let mismatch := ((cs.take 6).zip "CDATA[".toList).findIdx? fun (a, b) => a ≠ b
  match mismatch with
  | some i => .error (.invalid (o + i))
  | none => .ok ((), o + 6, cs.drop 6)

/-- Reads the content of a character section up to `]]>`. Line ends are read as line feeds.
A section the text ends in is unclosed: at the end of the text, or where a `]`, `]]` or a
carriage return that the end cuts short begins. -/
def scanCdataBody : Nat → List Char → List Char → Except XmlError (List Char × Nat × List Char)
  | o, _, [] => .error ⟨.unclosedCdata, o⟩
  | o, acc, ']' :: rest =>
    match rest with
    | [] => .error ⟨.unclosedCdata, o⟩
    | ']' :: after =>
      match after with
      | [] => .error ⟨.unclosedCdata, o⟩
      | '>' :: r => .ok (acc.reverse, o + 3, r)
      | c :: r => scanCdataBody (o + 1) (']' :: acc) (']' :: c :: r)
    | c :: r => scanCdataBody (o + 1) (']' :: acc) (c :: r)
  | o, acc, '\r' :: rest =>
    match rest with
    | [] => .error ⟨.unclosedCdata, o⟩
    | '\n' :: r => scanCdataBody (o + 2) ('\n' :: acc) r
    | c :: r => scanCdataBody (o + 1) ('\n' :: acc) (c :: r)
  | o, acc, c :: rest =>
    if isXmlChar c then scanCdataBody (o + 1) (c :: acc) rest else .error ⟨.invalidToken, o⟩

/-- Reads a run of character data: up to markup, a reference or a line end. The sequence
`]]>` may not occur in it. -/
def scanData : Nat → List Char → List Char → Scan (List Char)
  | o, acc, [] => .ok (acc.reverse, o, [])
  | o, _, ']' :: ']' :: '>' :: _ => .error (.invalid (o + 2))
  | o, acc, c :: rest =>
    if c = '<' ∨ c = '&' ∨ c = '\r' ∨ c = '\n' ∨ !isXmlChar c then .ok (acc.reverse, o, c :: rest)
    else scanData (o + 1) (c :: acc) rest

/-- Reads a quoted literal of the document type declaration; after the closing quote comes
white space, `>`, `%`, `[` or the end. -/
def scanLiteral (quote : Char) : Nat → List Char → List Char → Scan (List Char)
  | _, _, [] => .error .truncated
  | o, acc, c :: rest =>
    if c = quote then
      match rest with
      | [] => .ok (acc.reverse, o + 1, [])
      | d :: _ =>
        if isSpace d ∨ d = '>' ∨ d = '%' ∨ d = '[' then .ok (acc.reverse, o + 1, rest)
        else .error (.invalid (o + 1))
    else if isXmlChar c then scanLiteral quote (o + 1) (c :: acc) rest
    else .error (.invalid o)

end HiveDdl.Xml
