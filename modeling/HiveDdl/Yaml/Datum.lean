import HiveDdl.Binary64.Shortest
import HiveDdl.Calendar
import HiveDdl.Numeral
import HiveDdl.Text.Quote
/-!
# Values loaded from YAML

The values a document loads to: none, booleans, integers, floats, texts, byte strings, dates,
dates with times, and the containers (lists, pairs, mappings and sets). Values live in a heap
and containers hold heap numbers, so one value may stand in several places and a list may hold
itself.

Mapping keys are compared as numbers across booleans, integers and floats (`1`, `1.0` and
`true` are one key), as texts, byte strings, dates and dates with times otherwise; a value is
always the same key as itself, NaN included. Lists, mappings and sets cannot be keys.

* `Datum.sameKey`: whether two keys are one.
* `Datum.text`: the text of a key, as messages list them.
-/

namespace HiveDdl.Yaml

/-- A loaded value; containers hold heap numbers. -/
inductive Datum where
  | none
  | bool (b : Bool)
  | int (i : Int)
  | float (f : Float)
  | str (s : String)
  | bytes (bs : List UInt8)
  | date (d : Calendar.Date)
  | dateTime (t : Calendar.DateTime)
  | list (items : Array Nat)
  | pair (key value : Nat)
  | dict (entries : Array (Nat × Nat))
  | set (members : Array Nat)
deriving Inhabited

def Datum.isHashable : Datum → Bool
  | .list _ | .dict _ | .set _ => false
  | _ => true

def Datum.exact : Datum → Option (Bool × Nat × Nat)
  | .bool b => some (false, if b then 1 else 0, 1)
  | .int i => some (i < 0, i.natAbs, 1)
  | .float f =>
    match Binary64.Parts.ofFloat f with
    | .finite negative m e =>
      let (a, b) := Binary64.powTwo e
      some (negative && m ≠ 0, m * a, b)
    | _ => Option.none
  | _ => Option.none

def Datum.isNumber : Datum → Bool
  | .bool _ | .int _ | .float _ => true
  | _ => false

/-- Equality of two values as keys, apart from identity: numbers by value (an infinity equals
itself, NaN nothing), the rest within their own kind. -/
def Datum.keyEq : Datum → Datum → Bool
  | .none, .none => true
  | .str a, .str b => a == b
  | .bytes a, .bytes b => a == b
  | .date a, .date b => a == b
  | .dateTime a, .dateTime b => a.same b
  | .float a, .float b => a == b
  | a, b =>
    if a.isNumber && b.isNumber then
      match a.exact, b.exact with
      | some (sa, na, da), some (sb, nb, db) => (na == 0 && nb == 0) || (sa == sb && na * db == nb * da)
      | _, _ => false
    else false

/-- Whether two heap values are one key: the same value, or equal keys. -/
def Datum.sameKey (heap : Array Datum) (a b : Nat) : Bool :=
  a == b || (heap.getD a default).keyEq (heap.getD b default)

def intText (i : Int) : Except String String :=
  let digits := toString i.natAbs
  if digits.length > integerDigitLimit then
    .error ("Exceeds the limit (" ++ toString integerDigitLimit ++
      " digits) for integer string conversion; use sys.set_int_max_str_digits() to increase the limit")
  else .ok ((if i < 0 then "-" else "") ++ digits)

/-- The text of a key as messages list it; an integer past 4300 digits has none, and containers,
which are never keys, have the empty text. -/
def Datum.text : Datum → Except String String
  | .none => .ok "None"
  | .bool b => .ok (if b then "True" else "False")
  | .int i => intText i
  | .float f => .ok (Binary64.FloatStyle.standard.render f)
  | .str s => .ok s
  | .bytes bs => .ok (Text.quotedBytes bs)
  | .date d => .ok d.text
  | .dateTime t => .ok t.text
  | .list _ | .pair _ _ | .dict _ | .set _ => .ok ""

end HiveDdl.Yaml
