import HiveDdl.Xml.Prolog
import HiveDdl.Xml.Tree
/-!
# The XML declaration and the document type declaration

The prolog of an XML text may start with an XML declaration and may hold one document type
declaration. The reader checks both for well-formedness and keeps what matters for the
document value:

* whether the document is standalone (`standalone="yes"`);
* whether entities may be declared out of sight: an external subset (`SYSTEM` or `PUBLIC`) or
  a parameter entity reference. Then references to undeclared entities are skipped instead of
  being errors, unless the document is standalone; and after a parameter entity reference in a
  document that is not standalone, later declarations are not read;
* the declared attributes with their defaults, which elements that omit them receive;
* any entity declaration it reads refuses the document (`ReadError.entitiesDisabled`), except a
  general entity named like a predefined one (`lt`, `gt`, `amp`, `quot`, `apos`).

Declarations follow their grammar token by token (`PrologToken`); a token out of place is a
syntax error at its start (an XML declaration there is misplaced, a parameter entity reference
inside a declaration is illegal).
-/

namespace HiveDdl.Xml

/-- An attribute declared for an element: whether its values are kept as written (`CDATA`) and
its default value, if it has one. -/
structure AttDecl where
  element : String
  name : String
  cdata : Bool
  default : Option (List Char)
deriving Repr

/-- What the prolog tells the reader about the document. -/
structure Dtd where
  /-- The document type names an external subset or refers to a parameter entity. -/
  external : Bool
  /-- The XML declaration says `standalone="yes"`. -/
  standalone : Bool
  /-- Declarations are read (no parameter entity reference has been skipped before them in a
  document that is not standalone). -/
  reading : Bool
  /-- Declared attributes, in declaration order. -/
  attributes : List AttDecl
deriving Repr

def Dtd.initial : Dtd := ⟨false, false, true, []⟩

/-- References to undeclared entities are errors unless entities may be declared out of
sight in a document that is not standalone. -/
def Dtd.checksEntities (d : Dtd) : Bool :=
  !d.external || d.standalone

def Dtd.lookupAttribute (dtd : Dtd) (element name : String) : Option AttDecl :=
  dtd.attributes.find? fun d => d.element = element && d.name = name

/-- The defaults an element receives for the attributes it does not give: for each declared
attribute its first declaration, in declaration order, when that has a default. -/
def Dtd.defaultsFor (dtd : Dtd) (element : String) (given : List String) :
    List (String × String) :=
  let decls := dtd.attributes.filter fun d => d.element = element && !(given.contains d.name)
  let firsts := decls.foldl (fun (acc : List AttDecl) d =>
    if acc.any (·.name = d.name) then acc else acc ++ [d]) []
  firsts.filterMap fun d => d.default.map fun v => (d.name, String.ofList v)

/-- Collapses runs of spaces to one and drops them at both ends, for declared attributes that
are not `CDATA`. -/
def collapseSpaces (cs : List Char) : List Char :=
  " ".intercalate ((String.ofList cs).splitOn " " |>.filter (!·.isEmpty)) |>.toList

/-- The value of an attribute from its characters as written: references replaced and each
white space character, or carriage return and line feed together, read as one space.

An undeclared entity is an error at `holder` (the start of the tag or literal that holds the
value) when `checks`, and is skipped otherwise. A bad character number is an error at its `&`,
a malformed reference at its offending character (at its `&` when the value ends inside it),
and `<` is an error where it stands. -/
def attributeValue (checks : Bool) (holder : Nat) :
    Nat → Nat → List Char → List Char → Except ReadError (List Char)
  | 0, _, _, acc => .ok acc.reverse
  | _ + 1, _, [], acc => .ok acc.reverse
  | fuel + 1, o, '&' :: rest, acc =>
    match scanRef (o + 1) rest with
    | .error (.invalid p) => stopAt .invalidToken p
    | .error .truncated => stopAt .invalidToken o
    | .ok (.char none, _, _) => stopAt .badCharRef o
    | .ok (.char (some n), o', r) => attributeValue checks holder fuel o' r (Char.ofNat n :: acc)
    | .ok (.entity name, o', r) =>
      match predefinedEntity name with
      | some c => attributeValue checks holder fuel o' r (c :: acc)
      | none =>
        if checks then stopAt .undefinedEntity holder
        else attributeValue checks holder fuel o' r acc
  | _ + 1, o, '<' :: _, _ => stopAt .invalidToken o
  | fuel + 1, o, '\r' :: '\n' :: rest, acc =>
    attributeValue checks holder fuel (o + 2) rest (' ' :: acc)
  | fuel + 1, o, c :: rest, acc =>
    attributeValue checks holder fuel (o + 1) rest ((if isSpace c then ' ' else c) :: acc)

/-- Checks the replacement text of an entity: parameter entity references are illegal there,
references must be well formed and character numbers valid. -/
def checkEntityValue : Nat → Nat → List Char → Except ReadError Unit
  | 0, _, _ => .ok ()
  | _ + 1, _, [] => .ok ()
  | _ + 1, o, '%' :: rest =>
    match rest with
    | [] => stopAt .invalidToken o
    | c :: r =>
      if isNameStart c then
        match scanPeRef (o + 2) [c] r with
        | .ok _ => stopAt .paramEntityRef o
        | .error (.invalid p) => stopAt .invalidToken p
        | .error .truncated => stopAt .invalidToken o
      else stopAt .invalidToken (o + 1)
  | fuel + 1, o, '&' :: rest =>
    match scanRef (o + 1) rest with
    | .error (.invalid p) => stopAt .invalidToken p
    | .error .truncated => stopAt .invalidToken o
    | .ok (.char none, _, _) => stopAt .badCharRef o
    | .ok (_, o', r) => checkEntityValue fuel o' r
  | fuel + 1, o, _ :: rest => checkEntityValue fuel (o + 1) rest

/-- The characters of public identifiers: ASCII letters and digits, space, carriage return,
line feed and ``-'()+,./:=?;!*#@$_%``. -/
def isPublicIdChar (c : Char) : Bool :=
  c.toNat < 0x80 && (c.isAlphanum || " \r\n-\x27()+,./:=?;!*#@$_%".contains c)

def checkPublicId (o : Nat) (cs : List Char) : Except ReadError Unit :=
  match cs.findIdx? (!isPublicIdChar ·) with
  | some i => stopAt .publicId (o + i)
  | none => .ok ()

/-! ## The XML declaration -/

def isDeclValueChar (c : Char) : Bool :=
  c.toNat < 0x80 && (c.isAlphanum || c = '.' || c = '-' || c = '_')

/-- One pseudo-attribute of the XML declaration: white space, a name of ASCII characters, `=`
(white space around it allowed), a quoted value of letters, digits and `._-`. Returns the name
with its position and the value with its position, or nothing at the end; an error is the
position of the offending character. -/
def pseudoAttribute (o : Nat) (cs : List Char) :
    Except Nat (Option ((String × Nat) × (String × Nat)) × Nat × List Char) :=
  match cs with
  | [] => .ok (none, o, [])
  | c :: _ =>
    if !isSpace c then .error o else
    let (oName, atName) := skipSpaces o cs
    if atName.isEmpty then .ok (none, oName, []) else
    let nameChars := atName.takeWhile fun d => d.toNat < 0x80 && d ≠ '=' && !isSpace d
    let oAfter := oName + nameChars.length
    let afterName := atName.drop nameChars.length
    let (oEq, atEq) := skipSpaces oAfter afterName
    match atEq with
    | '=' :: afterEq =>
      if nameChars.isEmpty then .error oAfter else
      let (oQ, atQ) := skipSpaces (oEq + 1) afterEq
      match atQ with
      | q :: inValue =>
        if q = '"' ∨ q = '\'' then
          let value := inValue.takeWhile fun d => d ≠ q && isDeclValueChar d
          match inValue.drop value.length with
          | d :: rest =>
            if d = q then
              .ok (some ((String.ofList nameChars, oName), (String.ofList value, oQ + 1)),
                oQ + 2 + value.length, rest)
            else .error (oQ + 1 + value.length)
          | [] => .error (oQ + 1 + value.length)
        else .error oQ
      | [] => .error oQ
    | _ => .error oEq

/-- Checks the body of an XML declaration (after `xml`, before `?>`): `version`, then
optionally `encoding` (starting with a letter) and `standalone` (`yes` or `no`), then only white
space. Returns whether the document is standalone, or the offending position. -/
def checkXmlDecl (o : Nat) (body : List Char) : Except Nat Bool := do
  let (first, o1, r1) ← pseudoAttribute o body
  let some ((name1, at1), _) := first | throw o
  if name1 ≠ "version" then throw at1
  let (second, o2, r2) ← pseudoAttribute o1 r1
  let some ((name2, _), (value2, vat2)) := second | pure false
  let (third, o3, r3) ← if name2 = "encoding" then do
      if !(value2.toList.head?.map (fun c => c.toNat < 0x80 && c.isAlpha)).getD false then
        throw vat2
      pseudoAttribute o2 r2
    else pure (second, o2, r2)
  let some ((name3, at3), (value3, vat3)) := third | pure false
  if name3 ≠ "standalone" then throw at3
  let standalone ← if value3 = "yes" then pure true
    else if value3 = "no" then pure false else throw vat3
  let (o4, r4) := skipSpaces o3 r3
  if r4.isEmpty then pure standalone else throw o4

/-! ## Declarations -/

/-- A token out of place, at its start: a misplaced XML declaration, an illegal parameter
entity reference, or a syntax error. -/
def unexpected {α : Type} (tok : PrologToken) (start : Nat) : Except ReadError α :=
  match tok with
  | .instruction (.xmlDecl _ _) => stopAt .misplacedXmlPi start
  | .peRef _ => stopAt .paramEntityRef start
  | _ => stopAt .unexpectedToken start

/-- The next token that is not white space, with where it starts and what follows it; at the
end of the text there is no element. -/
def nextToken (o : Nat) (cs : List Char) :
    Except ReadError (PrologToken × Nat × Nat × List Char) :=
  let (start, r) := skipSpaces o cs
  match r with
  | [] => stopAt .noElements start
  | _ =>
    match prologToken start r with
    | .error s => stopScan start s
    | .ok (t, o', r') => .ok (t, start, o', r')

def expectDeclClose (o : Nat) (cs : List Char) : Except ReadError (Nat × List Char) := do
  let (t, s, o', r) ← nextToken o cs
  match t with
  | .declClose => pure (o', r)
  | t => unexpected t s

def expectLiteral (o : Nat) (cs : List Char) :
    Except ReadError (List Char × Nat × Nat × List Char) := do
  let (t, s, o', r) ← nextToken o cs
  match t with
  | .literal v => pure (v, s, o', r)
  | t => unexpected t s

/-- Reads the rest of a mixed content model after `(#PCDATA`: names separated by `|`, closed
by `)*`, or by `)` when there are none. -/
def readMixed : Nat → Bool → Nat → List Char → Except ReadError (Nat × List Char)
  | 0, _, o, _ => stopAt .noElements o
  | fuel + 1, first, o, cs => do
    let (t, s, o1, r1) ← nextToken o cs
    match t with
    | .closeParen none => if first then expectDeclClose o1 r1 else unexpected t s
    | .closeParen (some '*') => expectDeclClose o1 r1
    | .orBar =>
      let (t2, s2, o2, r2) ← nextToken o1 r1
      match t2 with
      | .name _ => readMixed fuel false o2 r2
      | t2 => unexpected t2 s2
    | t => unexpected t s

/-- How the items of a group are joined: `,` for a sequence, `|` for a choice. -/
inductive Connector where
  | sequence
  | choice
deriving Repr, DecidableEq

/-- Reads the rest of an element content model: groups of names joined by `,` or `|` (one of
them throughout a group). `groups` holds the connector of each open group, innermost first,
none until the group has two items; `afterItem` when a name or group has just been read. -/
def readChildren : Nat → Bool → List (Option Connector) → Nat → List Char →
    Except ReadError (Nat × List Char)
  | 0, _, _, o, _ => stopAt .noElements o
  | fuel + 1, afterItem, groups, o, cs => do
    let (t, s, o1, r1) ← nextToken o cs
    let join (c : Connector) : Except ReadError (Nat × List Char) :=
      match groups with
      | some c' :: _ => if c' ≠ c then stopAt .unexpectedToken s
        else readChildren fuel false groups o1 r1
      | _ :: outer => readChildren fuel false (some c :: outer) o1 r1
      | [] => readChildren fuel false [some c] o1 r1
    if afterItem then
      match t with
      | .closeParen _ =>
        match groups with
        | _ :: outer@(_ :: _) => readChildren fuel true outer o1 r1
        | _ => expectDeclClose o1 r1
      | .comma => join .sequence
      | .orBar => join .choice
      | t => unexpected t s
    else
      match t with
      | .openParen => readChildren fuel false (none :: groups) o1 r1
      | .name _ | .nameRepeat _ => readChildren fuel true groups o1 r1
      | t => unexpected t s

def readElementDecl (fuel o : Nat) (cs : List Char) : Except ReadError (Nat × List Char) := do
  let (t, s, o1, r1) ← nextToken o cs
  let .name _ := t | unexpected t s
  let (t2, s2, o2, r2) ← nextToken o1 r1
  match t2 with
  | .name "EMPTY" | .name "ANY" => expectDeclClose o2 r2
  | .openParen =>
    let (t3, s3, o3, r3) ← nextToken o2 r2
    match t3 with
    | .poundName "PCDATA" => readMixed fuel true o3 r3
    | .openParen => readChildren fuel false [none, none] o3 r3
    | .name _ | .nameRepeat _ => readChildren fuel true [none] o3 r3
    | t3 => unexpected t3 s3
  | t2 => unexpected t2 s2

/-- Reads a notation declaration after its keyword: a name, then `SYSTEM` and a literal, or
`PUBLIC`, a public identifier and optionally a literal. -/
def readNotationDecl (o : Nat) (cs : List Char) : Except ReadError (Nat × List Char) := do
  let (t, s, o1, r1) ← nextToken o cs
  let .name _ := t | unexpected t s
  let (t2, s2, o2, r2) ← nextToken o1 r1
  match t2 with
  | .name "SYSTEM" =>
    let (_, _, o3, r3) ← expectLiteral o2 r2
    expectDeclClose o3 r3
  | .name "PUBLIC" =>
    let (v, s3, o3, r3) ← expectLiteral o2 r2
    checkPublicId (s3 + 1) v
    let (t4, s4, o4, r4) ← nextToken o3 r3
    match t4 with
    | .literal _ => expectDeclClose o4 r4
    | .declClose => pure (o4, r4)
    | t4 => unexpected t4 s4
  | t2 => unexpected t2 s2

/-- Reads an entity declaration after its keyword. Once the declaration is complete enough
to be reported (its value, or its external identifier and closing `>` or notation), a declared
entity refuses the document. -/
def readEntityDecl (dtd : Dtd) (o : Nat) (cs : List Char) :
    Except ReadError (Nat × List Char) := do
  let (t, s, o1, r1) ← nextToken o cs
  let (param, name, o2, r2) ← match t with
    | .percent => do
      let (t', s', o', r') ← nextToken o1 r1
      match t' with
      | .name n => pure (true, n, o', r')
      | t' => unexpected t' s'
    | .name n => pure (false, n, o1, r1)
    | t => unexpected t s
  let declared := dtd.reading && (param || (predefinedEntity name).isNone)
  let (t3, s3, o3, r3) ← nextToken o2 r2
  let afterId (o : Nat) (cs : List Char) : Except ReadError (Nat × List Char) := do
    let (t, s, o1, r1) ← nextToken o cs
    match t with
    | .declClose => if declared then throw .entitiesDisabled else pure (o1, r1)
    | .name "NDATA" =>
      if param then unexpected t s else
      let (t2, s2, o2, r2) ← nextToken o1 r1
      match t2 with
      | .name _ => if declared then throw .entitiesDisabled else expectDeclClose o2 r2
      | t2 => unexpected t2 s2
    | t => unexpected t s
  match t3 with
  | .literal v =>
    if declared then throw .entitiesDisabled
    if dtd.reading then checkEntityValue (v.length + 1) (s3 + 1) v
    expectDeclClose o3 r3
  | .name "SYSTEM" =>
    let (_, _, o4, r4) ← expectLiteral o3 r3
    afterId o4 r4
  | .name "PUBLIC" =>
    let (v, s4, o4, r4) ← expectLiteral o3 r3
    checkPublicId (s4 + 1) v
    let (_, _, o5, r5) ← expectLiteral o4 r4
    afterId o5 r5
  | t3 => unexpected t3 s3

def tokenizedTypes : List String :=
  ["ID", "IDREF", "IDREFS", "ENTITY", "ENTITIES", "NMTOKEN", "NMTOKENS"]

/-- Reads the values of an enumeration after its `(`: name tokens (names, for notations)
separated by `|`, up to `)`. -/
def readEnumeration (onlyNames : Bool) : Nat → Nat → List Char → Except ReadError (Nat × List Char)
  | 0, o, _ => stopAt .noElements o
  | fuel + 1, o, cs => do
    let (t, s, o1, r1) ← nextToken o cs
    let fits := match t with
      | .name _ => true
      | .nmtoken => !onlyNames
      | _ => false
    if !fits then unexpected t s else
    let (t2, s2, o2, r2) ← nextToken o1 r1
    match t2 with
    | .closeParen none => pure (o2, r2)
    | .orBar => readEnumeration onlyNames fuel o2 r2
    | t2 => unexpected t2 s2

def readAttType (fuel o : Nat) (cs : List Char) : Except ReadError (Bool × Nat × List Char) := do
  let (t, s, o1, r1) ← nextToken o cs
  match t with
  | .name n =>
    if n = "CDATA" then pure (true, o1, r1)
    else if tokenizedTypes.contains n then pure (false, o1, r1)
    else if n = "NOTATION" then
      let (t2, s2, o2, r2) ← nextToken o1 r1
      match t2 with
      | .openParen =>
        let (o3, r3) ← readEnumeration true fuel o2 r2
        pure (false, o3, r3)
      | t2 => unexpected t2 s2
    else unexpected t s
  | .openParen =>
    let (o2, r2) ← readEnumeration false fuel o1 r1
    pure (false, o2, r2)
  | t => unexpected t s

/-- Reads the attribute definitions of an `ATTLIST` declaration for an element, up to the
closing `>`: name, type and default of each. While declarations are read, each is recorded,
its default read as an attribute value (collapsed unless `CDATA`). -/
def readAttDefs (element : String) : Nat → Dtd → Nat → List Char →
    Except ReadError (Dtd × Nat × List Char)
  | 0, _, o, _ => stopAt .noElements o
  | fuel + 1, dtd, o, cs => do
    let (t, s, o1, r1) ← nextToken o cs
    match t with
    | .declClose => pure (dtd, o1, r1)
    | .name attName =>
      let (cdata, o2, r2) ← readAttType fuel o1 r1
      let (t3, s3, o3, r3) ← nextToken o2 r2
      let (default, o4, r4) ← match t3 with
        | .poundName "IMPLIED" | .poundName "REQUIRED" => pure (none, o3, r3)
        | .poundName "FIXED" => do
          let (v, s4, o4, r4) ← expectLiteral o3 r3
          pure (some (s4, v), o4, r4)
        | .literal v => pure (some (s3, v), o3, r3)
        | t3 => unexpected t3 s3
      if dtd.reading then
        let value ← match default with
          | some (start, v) => do
            let v ← attributeValue dtd.checksEntities start (v.length + 1) (start + 1) v []
            pure (some (if cdata then v else collapseSpaces v))
          | none => pure none
        let dtd := { dtd with attributes := dtd.attributes ++ [⟨element, attName, cdata, value⟩] }
        readAttDefs element fuel dtd o4 r4
      else readAttDefs element fuel dtd o4 r4
    | t => unexpected t s

def readSubset : Nat → Dtd → Nat → List Char → Except ReadError (Dtd × Nat × List Char)
  | 0, _, o, _ => stopAt .noElements o
  | fuel + 1, dtd, o, cs => do
    let (t, s, o1, r1) ← nextToken o cs
    match t with
    | .comment | .instruction .other => readSubset fuel dtd o1 r1
    | .peRef _ => readSubset fuel { dtd with external := true, reading := dtd.standalone } o1 r1
    | .closeBracket => pure (dtd, o1, r1)
    | .declOpen "ENTITY" =>
      let (o2, r2) ← readEntityDecl dtd o1 r1
      readSubset fuel dtd o2 r2
    | .declOpen "ATTLIST" =>
      let (t2, s2, o2, r2) ← nextToken o1 r1
      let .name element := t2 | unexpected t2 s2
      let (dtd', o3, r3) ← readAttDefs element fuel dtd o2 r2
      readSubset fuel dtd' o3 r3
    | .declOpen "ELEMENT" =>
      let (o2, r2) ← readElementDecl fuel o1 r1
      readSubset fuel dtd o2 r2
    | .declOpen "NOTATION" =>
      let (o2, r2) ← readNotationDecl o1 r1
      readSubset fuel dtd o2 r2
    | t => unexpected t s

/-- Reads a document type declaration after its keyword: a name, an optional external
identifier, an optional internal subset, and `>`. -/
def readDoctype (fuel : Nat) (dtd : Dtd) (o : Nat) (cs : List Char) :
    Except ReadError (Dtd × Nat × List Char) := do
  let (t, s, o1, r1) ← nextToken o cs
  let .name _ := t | unexpected t s
  let (t2, s2, o2, r2) ← nextToken o1 r1
  let (dtd, t3, s3, o3, r3) ← match t2 with
    | .name "SYSTEM" => do
      let (_, _, o', r') ← expectLiteral o2 r2
      let (t', s', o'', r'') ← nextToken o' r'
      pure ({ dtd with external := true }, t', s', o'', r'')
    | .name "PUBLIC" => do
      let (v, sv, o', r') ← expectLiteral o2 r2
      checkPublicId (sv + 1) v
      let (_, _, o'', r'') ← expectLiteral o' r'
      let (t', s', o3, r3) ← nextToken o'' r''
      pure ({ dtd with external := true }, t', s', o3, r3)
    | t2 => pure (dtd, t2, s2, o2, r2)
  match t3 with
  | .declClose => pure (dtd, o3, r3)
  | .openBracket =>
    let (dtd', o4, r4) ← readSubset fuel dtd o3 r3
    let (o5, r5) ← expectDeclClose o4 r4
    pure (dtd', o5, r5)
  | t3 => unexpected t3 s3

end HiveDdl.Xml
