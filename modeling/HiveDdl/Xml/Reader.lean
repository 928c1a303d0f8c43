import HiveDdl.Xml.Declaration
/-!
# Reading XML documents

An XML text becomes a document value whose single key is the root element's name (see `Tree`
for how elements become values). The text is read in three parts:

* the prolog: white space, comments, processing instructions, at its very start an XML
  declaration (a byte order mark may come first), and one document type declaration;
* the root element: character data, references, character sections, comments and processing
  instructions between tags; line ends (carriage return, line feed, or both) are read as line
  feeds, and attribute values as in `attributeValue`;
* after the root: only white space, comments and processing instructions.

The first problem in the text, in reading order, is the answer; problems are placed by
character offset (`XmlError.message` turns that into line and column).

* `read text`: the document value, or why there is none.
-/

namespace HiveDdl.Xml

/-- The attributes of a start tag: checked in order for repeats (an error at the repeated
name) and read into values; then the declared defaults of attributes the tag does not give. -/
def storeAttributes (dtd : Dtd) (tagStart : Nat) (element : String) (attrs : List RawAttr) :
    Except ReadError (List (String × String)) := do
  let given ← attrs.foldlM (fun (acc : List (String × String)) a => do
    if acc.any (·.1 = a.name) then stopAt .duplicateAttribute a.nameOffset
    else
      let v ← attributeValue dtd.checksEntities tagStart (a.raw.length + 1) a.rawOffset a.raw []
      let v := match dtd.lookupAttribute element a.name with
        | some d => if d.cdata then v else collapseSpaces v
        | none => v
      pure (acc ++ [(a.name, String.ofList v)])) []
  pure (given ++ dtd.defaultsFor element (given.map (·.1)))

/-- A reference in content: a character, nothing (an undeclared entity that is skipped), or an
error at the `&`. -/
def contentRef (dtd : Dtd) (o : Nat) (ref : Ref) : Except ReadError (List Char) :=
  match ref with
  | .char none => stopAt .badCharRef o
  | .char (some n) => .ok [Char.ofNat n]
  | .entity name =>
    match predefinedEntity name with
    | some c => .ok [c]
    | none => if dtd.checksEntities then stopAt .undefinedEntity o else .ok []

/-- Reads the content of the root element, from its start tag to its end tag. `stack` holds
the open elements, innermost first. Returns the document's fields and what follows the root. -/
def readContent (dtd : Dtd) :
    Nat → Nat → List Char → List Frame → Except ReadError (List (String × Value) × Nat × List Char)
  | 0, o, _, _ => stopAt .noElements o
  | fuel + 1, o, cs, stack =>
    match cs with
    | [] => stopAt .noElements o
    | '<' :: rest =>
      match rest with
      | [] => stopAt .unclosedToken o
      | '/' :: r =>
        match scanEndTag (o + 2) r with
        | .error s => stopScan o s
        | .ok (name, o', r') =>
          match stack with
          | f :: _ =>
            if name ≠ f.name then stopAt .tagMismatch (o + 2) else do
            match ← closeTop stack with
            | .inl stack' => readContent dtd fuel o' r' stack'
            | .inr doc => pure (doc, o', r')
          | [] => stopAt .tagMismatch (o + 2)
      | '!' :: r =>
        match r with
        | [] => stopAt .unclosedToken o
        | '-' :: r' =>
          match scanComment (o + 3) r' with
          | .error s => stopScan o s
          | .ok (_, o', r'') => readContent dtd fuel o' r'' stack
        | '[' :: r' =>
          match scanCdataOpen (o + 3) r' with
          | .error s => stopScan o s
          | .ok (_, o1, r1) =>
            match scanCdataBody o1 [] r1 with
            | .error e => .error (.malformed e)
            | .ok (text, o', r'') => readContent dtd fuel o' r'' (addText stack text)
        | _ :: _ => stopAt .invalidToken (o + 2)
      | '?' :: r =>
        match scanPi (o + 2) r with
        | .error s => stopScan o s
        | .ok (.xmlDecl _ _, _, _) => stopAt .misplacedXmlPi o
        | .ok (.other, o', r') => readContent dtd fuel o' r' stack
      | c :: _ =>
        if !isNameStart c then stopAt .invalidToken (o + 1) else
        match scanStartTag (o + 1) rest with
        | .error s => stopScan o s
        | .ok (tag, o', r') => do
          let attrs ← storeAttributes dtd o tag.name tag.attrs
          let stack := (← openElement tag.name attrs) :: stack
          if tag.selfClosing then
            match ← closeTop stack with
            | .inl stack' => readContent dtd fuel o' r' stack'
            | .inr doc => pure (doc, o', r')
          else readContent dtd fuel o' r' stack
    | '&' :: rest =>
      match scanRef (o + 1) rest with
      | .error s => stopScan o s
      | .ok (ref, o', r) => do
        let text ← contentRef dtd o ref
        readContent dtd fuel o' r (addText stack text)
    | '\r' :: '\n' :: rest => readContent dtd fuel (o + 2) rest (addText stack ['\n'])
    | ['\r'] => stopAt .noElements o
    | '\r' :: rest => readContent dtd fuel (o + 1) rest (addText stack ['\n'])
    | '\n' :: rest => readContent dtd fuel (o + 1) rest (addText stack ['\n'])
    | c :: rest =>
      if !isXmlChar c then stopAt .invalidToken o else
      match scanData o [] (c :: rest) with
      | .error s => stopScan o s
      | .ok (text, o', r) =>
        if text.isEmpty then stopAt .invalidToken o
        else readContent dtd fuel o' r (addText stack text)

/-- Reads what follows the root element: only white space, comments and processing
instructions; anything else is junk at its start. -/
def readEpilog : Nat → Nat → List Char → Except ReadError Unit
  | 0, _, _ => .ok ()
  | fuel + 1, o, cs =>
    match cs with
    | [] => .ok ()
    | _ =>
      match prologToken o cs with
      | .error s => stopScan o s
      | .ok (.space, o', r) | .ok (.comment, o', r) | .ok (.instruction .other, o', r) =>
        readEpilog fuel o' r
      | .ok _ => stopAt .junkAfterDocElement o

/-- Where the prolog has got to: nothing read yet, something read, or the document type
declared. -/
inductive PrologStage where
  | start
  | misc
  | afterDoctype
deriving Repr, DecidableEq

def byteOrderMark : Char := '\uFEFF'

def readProlog : Nat → PrologStage → Dtd → Nat → List Char →
    Except ReadError (List (String × Value))
  | 0, _, _, o, _ => stopAt .noElements o
  | fuel + 1, stage, dtd, o, cs =>
    match cs with
    | [] => stopAt .noElements o
    | c :: rest =>
      if o = 0 ∧ c = byteOrderMark then readProlog fuel stage dtd 1 rest else
      match prologToken o cs with
      | .error s => stopScan o s
      | .ok (t, o', r) =>
        let next := if stage = .start then PrologStage.misc else stage
        match t with
        | .space | .comment | .instruction .other => readProlog fuel next dtd o' r
        | .instruction (.xmlDecl body bodyOffset) =>
          if stage ≠ .start then stopAt .misplacedXmlPi o else
          match checkXmlDecl bodyOffset body with
          | .error pos => stopAt .xmlDecl pos
          | .ok standalone => readProlog fuel .misc { dtd with standalone := standalone } o' r
        | .declOpen "DOCTYPE" =>
          if stage = .afterDoctype then stopAt .unexpectedToken o else
          match readDoctype fuel dtd o' r with
          | .error e => .error e
          | .ok (dtd', o'', r'') => readProlog fuel .afterDoctype dtd' o'' r''
        | .instanceStart => do
          let (doc, o'', r'') ← readContent dtd (cs.length + 1) o cs []
          readEpilog (r''.length + 1) o'' r''
          pure doc
        | t => unexpected t o

/-- Reads an XML text into its document value: the fields of an object whose single key is
the root element's name. -/
def read (text : String) : Except ReadError (List (String × Value)) :=
  let cs := text.toList
  readProlog (cs.length + 2) .start Dtd.initial 0 cs

end HiveDdl.Xml
