import HiveDdl.Path.TypePath
import HiveDdl.Numeral
/-!
# Resolving segments

Segments lead from a value into it with JSON pointer rules: a segment is unescaped (`~1` to `/`
first, then `~0` to `~`), an object is entered by the key equal to it, and an array by the index
it spells in ASCII digits (leading zeros allowed), below the array's length. The index is read as
an integer, so at an array a segment of more than `integerDigitLimit` digits is refused as an
integer is (`NumeralError.integerTooLong`), which is not a path error.

* `unescapeSegment`, `step`, `resolve`.
* `ResolveError`: a segment that leads nowhere, or an index too long to read.
-/

namespace HiveDdl

def unescapeSlashes : List Char → List Char
  | '~' :: '1' :: rest => '/' :: unescapeSlashes rest
  | c :: rest => c :: unescapeSlashes rest
  | [] => []

def unescapeTildes : List Char → List Char
  | '~' :: '0' :: rest => '~' :: unescapeTildes rest
  | c :: rest => c :: unescapeTildes rest
  | [] => []

/-- The key or index a segment stands for. -/
def unescapeSegment (segment : String) : String :=
  String.ofList (unescapeTildes (unescapeSlashes segment.toList))

/-- The index an ASCII decimal text spells, if it is one; an index of more than
`integerDigitLimit` digits is refused. -/
def asciiIndex? (s : String) : Except NumeralError (Option Nat) :=
  if !s.isEmpty && s.toList.all (fun c => '0' ≤ c && c ≤ '9') then
    if s.length > integerDigitLimit then .error (.integerTooLong s.length)
    else .ok (some (s.toList.foldl (fun n c => n * 10 + (c.toNat - '0'.toNat)) 0))
  else .ok none

/-- Where one unescaped segment leads from a value, if anywhere. -/
def step (v : Value) (segment : String) : Except NumeralError (Option Value) :=
  match v with
  | .object fields => .ok (lookupField fields segment)
  | .array items => (asciiIndex? segment).map fun i => i.bind fun i => items[i]?
  | _ => .ok none

/-- Why segments do not resolve. -/
inductive ResolveError where
  | path (e : PathError)
  | index (e : NumeralError)
deriving Repr, DecidableEq

def ResolveError.message : ResolveError → String
  | .path e => e.message
  | .index e => e.message

/-- Follows segments from a value; a segment that leads nowhere is refused with the
expression. -/
def resolve (current : Value) (segments : List String) (expression : String) :
    Except ResolveError Value :=
  match segments with
  | [] => .ok current
  | raw :: rest =>
    let segment := unescapeSegment raw
    match step current segment with
    | .ok (some next) => resolve next rest expression
    | .ok none => .error (.path ⟨expression, .unresolved segment⟩)
    | .error e => .error (.index e)

end HiveDdl
