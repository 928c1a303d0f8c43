import HiveDdl.Xml.Markup
/-!
# Tokens of the prolog

Before the root element, inside the document type declaration and after the root, an XML text
is a sequence of tokens: white space, comments, processing instructions, declaration openings
(`<!` and a keyword), literals, names and the punctuation of declarations. `prologToken` reads
one token; which tokens may follow which is the business of the declaration grammar.

A token ends where its kind says; a character that cannot continue or follow it makes the text
not well formed at that character, and a token cut off by the end of the text is unclosed.
-/

namespace HiveDdl.Xml

/-- A token of the prolog. -/
inductive PrologToken where
  | space
  | instruction (i : Instruction)
  | comment
  /-- `<!` and a keyword, followed by white space or `%`. -/
  | declOpen (keyword : String)
  /-- `<![`, which only a conditional section may start. -/
  | condSectOpen
  /-- `]]>`. -/
  | condSectClose
  /-- `<` and the first character of a name: the root element begins (nothing is read). -/
  | instanceStart
  | literal (value : List Char)
  | name (text : String)
  /-- A name followed by one of `? * +`, as in content models. -/
  | nameRepeat (text : String)
  /-- Name characters that do not start with a name start character. -/
  | nmtoken
  /-- `#` and a name, as in `#PCDATA` or `#REQUIRED`. -/
  | poundName (text : String)
  /-- `%name;`. -/
  | peRef (name : String)
  /-- `%` followed by white space, as in a parameter entity declaration. -/
  | percent
  | openBracket
  | closeBracket
  | declClose
  | openParen
  /-- `)`, possibly followed by one of `* ? +`. -/
  | closeParen (suffix : Option Char)
  | orBar
  | comma
deriving Repr

/-- Whether a character is an ASCII letter, `_` or `:`: the characters of declaration keywords,
and the ASCII characters that may start a name. -/
def isKeywordChar (c : Char) : Bool :=
  c.toNat < 0x80 && (c.isAlpha || c = '_' || c = ':')

def scanDeclKeyword : Nat → List Char → List Char → Scan PrologToken
  | _, _, [] => .error .truncated
  | o, acc, c :: rest =>
    if isKeywordChar c then scanDeclKeyword (o + 1) (c :: acc) rest
    else if isSpace c then .ok (.declOpen (String.ofList acc.reverse), o, c :: rest)
    else if c = '%' then
      match rest with
      | [] => .error .truncated
      | d :: _ =>
        if isSpace d ∨ d = '%' then .error (.invalid o)
        else .ok (.declOpen (String.ofList acc.reverse), o, c :: rest)
    else .error (.invalid o)

def nameToken (isName : Bool) (acc : List Char) : PrologToken :=
  if isName then .name (String.ofList acc.reverse) else .nmtoken

/-- Reads the rest of a name or name token: it ends at white space or one of `> ) , | [ %`;
one of `+ * ?` right after a name belongs to it. -/
def scanPrologName (isName : Bool) : Nat → List Char → List Char → Scan PrologToken
  | o, acc, [] => .ok (nameToken isName acc, o, [])
  | o, acc, c :: rest =>
    if isNameChar c then scanPrologName isName (o + 1) (c :: acc) rest
    else if isSpace c ∨ c = '>' ∨ c = ')' ∨ c = ',' ∨ c = '|' ∨ c = '[' ∨ c = '%' then
      .ok (nameToken isName acc, o, c :: rest)
    else if (c = '+' ∨ c = '*' ∨ c = '?') ∧ isName then
      .ok (.nameRepeat (String.ofList acc.reverse), o + 1, rest)
    else .error (.invalid o)

def scanPoundName : Nat → List Char → List Char → Scan PrologToken
  | o, acc, [] => .ok (.poundName (String.ofList acc.reverse), o, [])
  | o, acc, c :: rest =>
    if isNameChar c then scanPoundName (o + 1) (c :: acc) rest
    else if isSpace c ∨ c = ')' ∨ c = '>' ∨ c = '%' ∨ c = '|' then
      .ok (.poundName (String.ofList acc.reverse), o, c :: rest)
    else .error (.invalid o)

/-- Reads the rest of a parameter entity reference after `%` and the first name character. -/
def scanPeRef : Nat → List Char → List Char → Scan PrologToken
  | _, _, [] => .error .truncated
  | o, acc, c :: rest =>
    if isNameChar c then scanPeRef (o + 1) (c :: acc) rest
    else if c = ';' then .ok (.peRef (String.ofList acc.reverse), o + 1, rest)
    else .error (.invalid o)

/-- Reads one token of the prolog at a position; the text is not empty there. -/
def prologToken (o : Nat) : List Char → Scan PrologToken
  | [] => .error .truncated
  | '<' :: rest =>
    match rest with
    | [] => .error .truncated
    | '!' :: r =>
      match r with
      | [] => .error .truncated
      | '-' :: r' => (scanComment (o + 3) r').map fun (_, o', r'') => (.comment, o', r'')
      | '[' :: r' => .ok (.condSectOpen, o + 3, r')
      | c :: r' =>
        if isKeywordChar c then scanDeclKeyword (o + 3) [c] r' else .error (.invalid (o + 2))
    | '?' :: r => (scanPi (o + 2) r).map fun (i, o', r') => (.instruction i, o', r')
    | c :: _ =>
      if isKeywordChar c ∨ c.toNat ≥ 0x80 then .ok (.instanceStart, o, '<' :: rest)
      else .error (.invalid (o + 1))
  | '"' :: rest => (scanLiteral '"' (o + 1) [] rest).map fun (v, o', r) => (.literal v, o', r)
  | '\'' :: rest => (scanLiteral '\'' (o + 1) [] rest).map fun (v, o', r) => (.literal v, o', r)
  | '%' :: rest =>
    match rest with
    | [] => .error .truncated
    | c :: r =>
      if isSpace c ∨ c = '%' then .ok (.percent, o + 1, rest)
      else if isNameStart c then scanPeRef (o + 2) [c] r
      else .error (.invalid (o + 1))
  | '#' :: rest =>
    match rest with
    | [] => .error .truncated
    | c :: r =>
      if isNameStart c then scanPoundName (o + 2) [c] r else .error (.invalid (o + 1))
  | '[' :: rest => .ok (.openBracket, o + 1, rest)
  | ']' :: rest =>
    match rest with
    | ']' :: r =>
      match r with
      | [] => .error .truncated
      | '>' :: r' => .ok (.condSectClose, o + 3, r')
      | _ => .ok (.closeBracket, o + 1, rest)
    | _ => .ok (.closeBracket, o + 1, rest)
  | '>' :: rest => .ok (.declClose, o + 1, rest)
  | '(' :: rest => .ok (.openParen, o + 1, rest)
  | ')' :: rest =>
    match rest with
    | [] => .ok (.closeParen none, o + 1, [])
    | c :: r =>
      if c = '*' ∨ c = '?' ∨ c = '+' then .ok (.closeParen (some c), o + 2, r)
      else if isSpace c ∨ c = '>' ∨ c = ',' ∨ c = '|' ∨ c = ')' then
        .ok (.closeParen none, o + 1, rest)
      else .error (.invalid (o + 1))
  | ',' :: rest => .ok (.comma, o + 1, rest)
  | '|' :: rest => .ok (.orBar, o + 1, rest)
  | c :: rest =>
    if isSpace c then
      let (o', r) := skipSpaces o (c :: rest)
      .ok (.space, o', r)
    else if isNameStart c then scanPrologName true (o + 1) [c] rest
    else if isNameChar c then scanPrologName false (o + 1) [c] rest
    else .error (.invalid o)

end HiveDdl.Xml
