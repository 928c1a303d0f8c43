import HiveDdl.Numeral
import HiveDdl.Value
import HiveDdl.Text.Surrogate
import HiveDdl.CallDepth
/-!
# Reading JSON text

A reader of JSON text into document values. It accepts the JSON grammar with three extensions,
the words `NaN`, `Infinity` and `-Infinity`; white space is space, tab, line feed and carriage
return. A number with a fraction or an exponent is kept as an exact decimal and any other as an
integer, each in its canonical text (`Numeral.text`). A repeated key of an object keeps its
first position and its last value.

A text that is not JSON is refused at the character where reading stops, with the reason read
there (`Problem`): the position counts characters from zero. Entering an object or an array
opens a call, so a text nested deeper than the calls left allows is refused at the object or
array that goes past the limit.

* `read s depth`: the value of a whole text, white space allowed around it, read with `depth`
  calls open.
-/

namespace HiveDdl.Json

/-- Why reading stopped. -/
inductive Problem where
  | expectingValue
  | expectingPropertyName
  | expectingColon
  | expectingComma
  | extraData
  | controlCharacter
  | unterminatedString
  | invalidEscape
  | invalidUnicodeEscape
  | byteOrderMark
deriving Repr, DecidableEq

def Problem.text : Problem → String
  | .expectingValue => "Expecting value"
  | .expectingPropertyName => "Expecting property name enclosed in double quotes"
  | .expectingColon => "Expecting ':' delimiter"
  | .expectingComma => "Expecting ',' delimiter"
  | .extraData => "Extra data"
  | .controlCharacter => "Invalid control character at"
  | .unterminatedString => "Unterminated string starting at"
  | .invalidEscape => "Invalid \\escape"
  | .invalidUnicodeEscape => "Invalid \\uXXXX escape"
  | .byteOrderMark => "Unexpected UTF-8 BOM (decode using utf-8-sig)"

/-- A text that is not JSON, with the position where reading stopped. -/
structure SyntaxError where
  problem : Problem
  pos : Nat
deriving Repr, DecidableEq

/-- Why a text has no value: bad syntax, a numeral that has no text, or an object (`true`) or
array (`false`) nested past the call limit. -/
inductive ReadError where
  | malformed (e : SyntaxError)
  | numeral (e : NumeralError)
  | tooDeep (object : Bool)
deriving Repr, DecidableEq

def tooDeepMessage (object : Bool) : String :=
  recursionMessage (" while decoding a JSON " ++ (if object then "object" else "array") ++
    " from a unicode string")

def lineColumn (text : List Char) (pos : Nat) : Nat × Nat :=
  let before := text.take pos
  let line := before.count '\n' + 1
  let column := (before.reverse.takeWhile (· ≠ '\n')).length + 1
  (line, column)

/-- The message of a syntax error in a text: the reason, then line, column and position. -/
def SyntaxError.message (e : SyntaxError) (text : List Char) : String :=
  let (line, column) := lineColumn text e.pos
  s!"{e.problem.text}: line {line} column {column} (char {e.pos})"

/-- The rest of a text with the position of its first character. -/
structure Cursor where
  pos : Nat
  rest : List Char

def Cursor.next (c : Cursor) : Cursor :=
  ⟨c.pos + 1, c.rest.drop 1⟩

def isSpace (c : Char) : Bool :=
  c = ' ' || c = '\t' || c = '\n' || c = '\r'

def skipSpace : Nat → List Char → Cursor
  | pos, c :: rest => if isSpace c then skipSpace (pos + 1) rest else ⟨pos, c :: rest⟩
  | pos, [] => ⟨pos, []⟩

def Cursor.skipSpace (c : Cursor) : Cursor :=
  Json.skipSpace c.pos c.rest

def stop {α : Type} (problem : Problem) (pos : Nat) : Except ReadError α :=
  .error (.malformed ⟨problem, pos⟩)

def hexValue? (c : Char) : Option Nat :=
  if '0' ≤ c ∧ c ≤ '9' then some (c.toNat - '0'.toNat)
  else if 'a' ≤ c ∧ c ≤ 'f' then some (c.toNat - 'a'.toNat + 10)
  else if 'A' ≤ c ∧ c ≤ 'F' then some (c.toNat - 'A'.toNat + 10)
  else none

def hex4? (a b c d : Char) : Option Nat := do
  let a ← hexValue? a
  let b ← hexValue? b
  let c ← hexValue? c
  let d ← hexValue? d
  pure (((a * 16 + b) * 16 + c) * 16 + d)

def simpleEscape? : Char → Option Char
  | '"' => some '"'
  | '\\' => some '\\'
  | '/' => some '/'
  | 'b' => some '\x08'
  | 'f' => some '\x0c'
  | 'n' => some '\n'
  | 'r' => some '\r'
  | 't' => some '\t'
  | _ => none

def isHighSurrogate (n : Nat) : Bool := 0xD800 ≤ n && n ≤ 0xDBFF
def isLowSurrogate (n : Nat) : Bool := 0xDC00 ≤ n && n ≤ 0xDFFF

/-- Reads the characters of a string after its opening quote, which stands at `start`. A
unicode escape needs four hexadecimal digits and one more character after them; an escaped
surrogate pair is one character, and a lone surrogate is kept as its stand-in. -/
def readChars (start : Nat) : Nat → List Char → List Char → Except ReadError (String × Cursor)
  | _, [], _ => stop .unterminatedString start
  | pos, '"' :: rest, acc => .ok (String.ofList acc.reverse, ⟨pos + 1, rest⟩)
  | pos, '\\' :: rest, acc =>
    match rest with
    | [] => stop .unterminatedString start
    | 'u' :: a :: b :: c :: d :: after =>
      if after.isEmpty then stop .invalidUnicodeEscape (pos + 1) else
      match hex4? a b c d with
      | none => stop .invalidUnicodeEscape (pos + 1)
      | some high =>
        if isHighSurrogate high && after.length > 6 then
          match hm : after with
          | '\\' :: 'u' :: e :: f :: g :: h :: after' =>
            match hex4? e f g h with
            | none => stop .invalidUnicodeEscape (pos + 7)
            | some low =>
              if isLowSurrogate low then
                let joined := 0x10000 + (high - 0xD800) * 0x400 + (low - 0xDC00)
                readChars start (pos + 12) after' (Char.ofNat joined :: acc)
              else readChars start (pos + 6) after (Text.standIn high :: acc)
          | _ => readChars start (pos + 6) after (Text.standIn high :: acc)
        else
          let ch := if isHighSurrogate high || isLowSurrogate high then Text.standIn high
            else Char.ofNat high
          readChars start (pos + 6) after (ch :: acc)
    | 'u' :: _ => stop .invalidUnicodeEscape (pos + 1)
    | e :: after =>
      match simpleEscape? e with
      | some ch => readChars start (pos + 2) after (ch :: acc)
      | none => stop .invalidEscape pos
  | pos, c :: rest, acc =>
    if c.toNat ≤ 0x1F then stop .controlCharacter pos
    else readChars start (pos + 1) rest (c :: acc)
termination_by _ rest _ => rest.length
decreasing_by all_goals simp_all <;> omega

def readString (c : Cursor) : Except ReadError (String × Cursor) :=
  readChars c.pos (c.pos + 1) (c.rest.drop 1) []

def isAsciiDigit (c : Char) : Bool := '0' ≤ c && c ≤ '9'

def digitValues (cs : List Char) : List Nat :=
  cs.map (·.toNat - '0'.toNat)

/-- Reads the exponent after an `e` or `E`: an optional sign and at least one digit. -/
def readExponent (cs : List Char) : Option (Int × Nat × List Char) :=
  let (negative, signLen, body) :=
    match cs with
    | '-' :: r => (true, 1, r)
    | '+' :: r => (false, 1, r)
    | r => (false, 0, r)
  let ds := body.takeWhile isAsciiDigit
  if ds.isEmpty then none
  else
    let magnitude : Int := (digitValues ds).foldl (fun (n : Int) (d : Nat) => n * 10 + d) 0
    some (if negative then -magnitude else magnitude, signLen + ds.length,
      body.drop ds.length)

/-- Reads a number at the cursor: an optional minus, `0` or digits not starting with `0`, an
optional fraction of at least one digit and an optional exponent. A part that does not
complete is left unread. -/
def readNumber (c : Cursor) : Except ReadError (Value × Cursor) :=
  let (negative, afterSign) :=
    match c.rest with
    | '-' :: r => (true, r)
    | r => (false, r)
  let signLen := if negative then 1 else 0
  let whole : List Char :=
    match afterSign with
    | '0' :: _ => ['0']
    | r => r.takeWhile isAsciiDigit
  if whole.isEmpty then stop .expectingValue c.pos else
  let r1 := afterSign.drop whole.length
  let (fraction, r2) : List Char × List Char :=
    match r1 with
    | '.' :: d :: r => if isAsciiDigit d then
        let ds := (d :: r).takeWhile isAsciiDigit
        (ds, (d :: r).drop ds.length)
      else ([], r1)
    | _ => ([], r1)
  let fracLen := if fraction.isEmpty then 0 else fraction.length + 1
  let (exponent, expLen, r3) : Option Int × Nat × List Char :=
    match r2 with
    | e :: r => if e = 'e' || e = 'E' then
        match readExponent r with
        | some (x, n, r') => (some x, n + 1, r')
        | none => (none, 0, r2)
      else (none, 0, r2)
    | [] => (none, 0, r2)
  let numeral : Numeral := ⟨negative, digitValues whole, digitValues fraction, exponent⟩
  match numeral.text with
  | .ok t => .ok (.number t, ⟨c.pos + signLen + whole.length + fracLen + expLen, r3⟩)
  | .error e => .error (.numeral e)

def startsWith (cs : List Char) (word : String) : Bool :=
  cs.take word.length == word.toList

mutual

/-- Reads one value at the cursor, with `depth` calls open. The fuel bounds the number of
values and members read. -/
def readValue : Nat → Nat → Cursor → Except ReadError (Value × Cursor)
  | 0, _, c => stop .expectingValue c.pos
  | fuel + 1, depth, c =>
    match c.rest with
    | '"' :: _ => do
      let (s, c') ← readString c
      pure (.string s, c')
    | '{' :: rest =>
      if exceedsLimit depth 1 then .error (.tooDeep true)
      else readMembers fuel (depth + 1) (Json.skipSpace (c.pos + 1) rest) [] true
    | '[' :: rest =>
      if exceedsLimit depth 1 then .error (.tooDeep false)
      else readItems fuel (depth + 1) (Json.skipSpace (c.pos + 1) rest) [] true
    | cs =>
      let word (w : String) (v : Value) : Except ReadError (Value × Cursor) :=
        .ok (v, ⟨c.pos + w.length, cs.drop w.length⟩)
      if startsWith cs "null" then word "null" .null
      else if startsWith cs "true" then word "true" (.bool true)
      else if startsWith cs "false" then word "false" (.bool false)
      else if startsWith cs "NaN" then word "NaN" (.number "nan")
      else if startsWith cs "Infinity" then word "Infinity" (.number "inf")
      else if startsWith cs "-Infinity" then word "-Infinity" (.number "-inf")
      else readNumber c

/-- Reads the members of an object after its opening brace, white space skipped. `first`
tells whether no member has been read yet, where a closing brace may end the object. -/
def readMembers : Nat → Nat → Cursor → List (String × Value) → Bool →
    Except ReadError (Value × Cursor)
  | 0, _, c, _, _ => stop .expectingPropertyName c.pos
  | fuel + 1, depth, c, fields, first =>
    match c.rest with
    | '}' :: rest =>
      if first then .ok (.object fields, ⟨c.pos + 1, rest⟩)
      else stop .expectingPropertyName c.pos
    | '"' :: _ => do
      let (key, c1) ← readString c
      let c2 := c1.skipSpace
      match c2.rest with
      | ':' :: rest =>
        let (v, c3) ← readValue fuel depth (Json.skipSpace (c2.pos + 1) rest)
        let fields := setField fields key v
        let c4 := c3.skipSpace
        match c4.rest with
        | '}' :: rest => .ok (.object fields, ⟨c4.pos + 1, rest⟩)
        | ',' :: rest => readMembers fuel depth (Json.skipSpace (c4.pos + 1) rest) fields false
        | _ => stop .expectingComma c4.pos
      | _ => stop .expectingColon c2.pos
    | _ => stop .expectingPropertyName c.pos

def readItems : Nat → Nat → Cursor → List Value → Bool → Except ReadError (Value × Cursor)
  | 0, _, c, _, _ => stop .expectingValue c.pos
  | fuel + 1, depth, c, items, first =>
    match c.rest with
    | ']' :: rest =>
      if first then .ok (.array items.reverse, ⟨c.pos + 1, rest⟩)
      else stop .expectingValue c.pos
    | _ => do
      let (v, c1) ← readValue fuel depth c
      let c2 := c1.skipSpace
      match c2.rest with
      | ']' :: rest => .ok (.array (v :: items).reverse, ⟨c2.pos + 1, rest⟩)
      | ',' :: rest => readItems fuel depth (Json.skipSpace (c2.pos + 1) rest) (v :: items) false
      | _ => stop .expectingComma c2.pos

end

/-- Reads a whole text with `depth` calls open: one value with white space around it. A byte
order mark in front is refused. -/
def read (text : String) (depth : Nat) : Except ReadError Value :=
  let cs := text.toList
  match cs with
  | '﻿' :: _ => stop .byteOrderMark 0
  | _ => do
    let start := Json.skipSpace 0 cs
    let (v, c) ← readValue (2 * cs.length + 2) depth start
    let c' := c.skipSpace
    if c'.rest.isEmpty then pure v else stop .extraData c'.pos

end HiveDdl.Json
