import HiveDdl.Text.Quote
/-!
# UTF-8

Bytes become text when they are well-formed UTF-8: no overlong forms, no surrogates, nothing
above `U+10FFFF`. The first ill-formed place stops decoding, and its account names the bytes
involved:

* a byte that cannot start a character: that byte, "invalid start byte";
* a byte that cannot continue the character begun before it: the bytes of the character read
  so far, "invalid continuation byte";
* a character cut off by the end: its bytes up to the end, "unexpected end of data".

Encoding goes the other way and fails only on lone surrogates: the first run of them is
reported by its character positions.

* `decodeUtf8 bs`: the text, or the first problem.
* `Utf8Error.message`: the account, with byte positions counted from zero.
* `encodeProblem? s`: why a text cannot be encoded, if it cannot.
-/

namespace HiveDdl.Text

/-- An ill-formed place in bytes: the first and last-plus-one position of the bytes involved,
the first of them, and the reason. -/
structure Utf8Error where
  start : Nat
  stop : Nat
  byte : UInt8
  reason : String
deriving Repr, DecidableEq

/-- The account of an ill-formed place. -/
def Utf8Error.message (e : Utf8Error) : String :=
  if e.stop = e.start + 1 then
    "'utf-8' codec can't decode byte 0x" ++ hexPadded 2 e.byte.toNat ++ " in position " ++
      toString e.start ++ ": " ++ e.reason
  else
    "'utf-8' codec can't decode bytes in position " ++ toString e.start ++ "-" ++
      toString (e.stop - 1) ++ ": " ++ e.reason

def isContinuation (b : UInt8) : Bool :=
  0x80 ≤ b.toNat && b.toNat ≤ 0xBF

/-- The range the second byte of a character must lie in, given its first byte: narrower
after `E0`, `ED`, `F0` and `F4`, which would otherwise allow overlong forms, surrogates or code
points above `U+10FFFF`. -/
def secondByteRange (first : Nat) : Nat × Nat :=
  if first = 0xE0 then (0xA0, 0xBF)
  else if first = 0xED then (0x80, 0x9F)
  else if first = 0xF0 then (0x90, 0xBF)
  else if first = 0xF4 then (0x80, 0x8F)
  else (0x80, 0xBF)

def continuationCount (first : Nat) : Option Nat :=
  if first < 0x80 then some 0
  else if first < 0xC2 then none
  else if first < 0xE0 then some 1
  else if first < 0xF0 then some 2
  else if first < 0xF5 then some 3
  else none

def bytesCodePoint (bs : List Nat) : Nat :=
  match bs with
  | [a] => a
  | [a, b] => (a % 0x20) * 0x40 + b % 0x40
  | [a, b, c] => (a % 0x10) * 0x1000 + (b % 0x40) * 0x40 + c % 0x40
  | [a, b, c, d] => (a % 0x08) * 0x40000 + (b % 0x40) * 0x1000 + (c % 0x40) * 0x40 + d % 0x40
  | _ => 0

/-- Checks the bytes after the first of a character: how many of them are good before a bad
one, if one is bad. -/
def badContinuation (first : Nat) (rest : List UInt8) : Option Nat :=
  match rest with
  | [] => none
  | b :: more =>
    let (lo, hi) := secondByteRange first
    if !(lo ≤ b.toNat && b.toNat ≤ hi) then some 0
    else match more.findIdx? (!isContinuation ·) with
      | some i => some (i + 1)
      | none => none

def decodeFrom (bs : Array UInt8) (pos : Nat) (acc : List Char) : Except Utf8Error String :=
  if h : pos < bs.size then
    let first := bs[pos]
    match continuationCount first.toNat with
    | none => .error ⟨pos, pos + 1, first, "invalid start byte"⟩
    | some extra =>
      let avail := (bs.extract (pos + 1) (pos + 1 + extra)).toList
      match badContinuation first.toNat avail with
      | some good => .error ⟨pos, pos + 1 + good, first, "invalid continuation byte"⟩
      | none =>
        if avail.length < extra then
          .error ⟨pos, bs.size, first, "unexpected end of data"⟩
        else
          let c := Char.ofNat (bytesCodePoint (first.toNat :: avail.map (·.toNat)))
          decodeFrom bs (pos + 1 + extra) (c :: acc)
  else .ok (String.ofList acc.reverse)
termination_by bs.size - pos

def decodeUtf8 (bs : Array UInt8) : Except Utf8Error String :=
  decodeFrom bs 0 []

def isStandIn (c : Char) : Bool := (surrogateOf? c).isSome

/-- Why a text cannot be encoded in UTF-8: the first run of lone surrogates, as one character
with its position or as the range of positions it spans. -/
def encodeProblem? (s : String) : Option String :=
  let cs := s.toList
  (cs.findIdx? isStandIn).map fun start =>
    let run := (cs.drop start).takeWhile isStandIn
    let what := match run with
      | [c] => "character '\\u" ++ hexPadded 4 (codePoint c) ++ "' in position " ++ toString start
      | _ => "characters in position " ++ toString start ++ "-" ++ toString (start + run.length - 1)
    "'utf-8' codec can't encode " ++ what ++ ": surrogates not allowed"

end HiveDdl.Text
