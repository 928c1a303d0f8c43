import HiveDdl.Numeral
import HiveDdl.Value
import HiveDdl.Text.Blank
import HiveDdl.Text.Case
import HiveDdl.Text.Digit
/-!
# Typed XML text

XML has only text; a leaf's text (or an attribute's) is read as the scalar it spells. Trimmed
of blanks, an empty text stays empty, `true`, `false` and `null` in any case are booleans and
null, and a numeral is a number; any other text is kept as written, blanks included.

A numeral is an optional minus, `0` or a digit from `1` to `9` followed by digits, an optional
point and digits, and an optional exponent. After the first digit, digits of any script count,
with their decimal value (`1٢` is twelve). A numeral with a point or an exponent is a decimal,
else an integer, written in canonical text (`Numeral.text`).

* `Scalar.ofText`: the reading of a text, or why its numeral has no text.
-/

namespace HiveDdl.Xml

/-- What an XML text reads as. -/
inductive Scalar where
  | null
  | bool (b : Bool)
  | integer (text : String)
  | decimal (text : String)
  | text (s : String)
deriving Repr, DecidableEq

def takeDigits : List Char → List Nat × List Char
  | c :: rest =>
    match Text.digitValue? c with
    | some d => let (ds, r) := takeDigits rest; (d :: ds, r)
    | none => ([], c :: rest)
  | [] => ([], [])

def exponentOf? (cs : List Char) : Option Int :=
  let (negative, body) :=
    match cs with
    | '-' :: r => (true, r)
    | '+' :: r => (false, r)
    | r => (false, r)
  match takeDigits body with
  | ([], _) => none
  | (ds, []) =>
    let magnitude : Int := ds.foldl (fun (n : Int) (d : Nat) => n * 10 + d) 0
    some (if negative then -magnitude else magnitude)
  | _ => none

def numeralOf? (cs : List Char) : Option Numeral :=
  let (negative, body) :=
    match cs with
    | '-' :: r => (true, r)
    | r => (false, r)
  let split : Option (List Nat × List Char) :=
    match body with
    | '0' :: r => some ([0], r)
    | c :: r =>
      if '1' ≤ c ∧ c ≤ '9' then
        let (ds, r') := takeDigits r
        some ((c.toNat - '0'.toNat) :: ds, r')
      else none
    | [] => none
  match split with
  | none => none
  | some (whole, r1) =>
    let fractionPart : Option (List Nat × List Char) :=
      match r1 with
      | '.' :: r =>
        match takeDigits r with
        | ([], _) => none
        | (ds, r') => some (ds, r')
      | r => some ([], r)
    match fractionPart with
    | none => none
    | some (fraction, r2) =>
      match r2 with
      | [] => some ⟨negative, whole, fraction, none⟩
      | e :: r =>
        if e = 'e' ∨ e = 'E' then
          (exponentOf? r).map fun x => ⟨negative, whole, fraction, some x⟩
        else none

/-- The scalar a text reads as. -/
def Scalar.ofText (s : String) : Except NumeralError Scalar :=
  let trimmed := Text.trimList s.toList
  if trimmed.isEmpty then .ok (.text "")
  else
    let lowered := Text.lower (String.ofList trimmed)
    if lowered = "true" then .ok (.bool true)
    else if lowered = "false" then .ok (.bool false)
    else if lowered = "null" then .ok .null
    else
      match numeralOf? trimmed with
      | none => .ok (.text s)
      | some n =>
        if n.isDecimal then .decimal <$> n.decimalText else .integer <$> n.integerText

def Scalar.toValue : Scalar → Value
  | .null => .null
  | .bool b => .bool b
  | .integer t => .number t
  | .decimal t => .number t
  | .text s => .string s

end HiveDdl.Xml
