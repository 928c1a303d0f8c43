import HiveDdl.Binary64.Basic
import HiveDdl.Numeral
import HiveDdl.Text.Blank
import HiveDdl.Text.Case
import HiveDdl.Text.Digit
import HiveDdl.Text.Quote
/-!
# Numbers of YAML scalars

The integers and floats that scalars tagged `int` and `float` stand for.

Integers: underscores are ignored; after an optional sign, `0` is zero, `0b` starts binary
digits, `0x` hexadecimal ones, another leading `0` octal ones, and a text with colons is in base
60 with decimal groups (`1:30` is 90); otherwise the digits are decimal. Floats: underscores are
ignored and case does not matter; `.inf` and `.nan` are the infinity and NaN, base-60 groups
combine as for integers, and anything else is read as a decimal.

Reading a group of digits in a base first reads every decimal digit of any script as the ASCII
digit of its value, then trims blanks (the ASCII tab to carriage return and space, and every
blank beyond ASCII), takes an optional sign and the base's own prefix (`0b`, `0o`, `0x`) and
needs at least one digit; a decimal of more than 4300 digits is refused. A decimal float is
rounded to the nearest binary64 number. Messages quote the text as it was given.

* `readInteger text base`, `readDecimal text`: one group of digits.
* `intOfScalar`, `floatOfScalar`: the value of a scalar, or why it has none.
-/

namespace HiveDdl.Yaml

/-- Why a scalar has no number: a text that no rule reads, with the kind of the failure and its
message. -/
structure NumberError where
  kind : String
  message : String
deriving Repr

def digitValue (c : Char) : Option Nat :=
  if '0' ≤ c && c ≤ '9' then some (c.toNat - '0'.toNat)
  else if 'a' ≤ c && c ≤ 'z' then some (c.toNat - 'a'.toNat + 10)
  else if 'A' ≤ c && c ≤ 'Z' then some (c.toNat - 'A'.toNat + 10)
  else none

/-- The value of digits in a base, if all are digits of it and there is at least one. -/
def digitsValue (base : Nat) (cs : List Char) : Option Nat :=
  if cs.isEmpty then none
  else cs.foldl (fun acc c => acc.bind fun v =>
    (digitValue c).bind fun d => if d < base then some (v * base + d) else none) (some 0)

def basePrefix (base : Nat) : Option Char :=
  if base = 2 then some 'b' else if base = 8 then some 'o' else if base = 16 then some 'x' else none

def dropBasePrefix (base : Nat) (cs : List Char) : List Char :=
  match basePrefix base, cs with
  | some p, '0' :: l :: rest => if l.toLower = p then rest else cs
  | _, _ => cs

def invalidInteger (text : String) (base : Nat) : NumberError :=
  ⟨"ValueError", "invalid literal for int() with base " ++ toString base ++ ": " ++
    String.ofList ((Text.quoted text).toList.take 200)⟩

/-- The blanks around a number: the ASCII tab to carriage return and space, and every blank
beyond ASCII. -/
def isNumberBlank (c : Char) : Bool :=
  if c.toNat < 128 then (9 ≤ c.toNat && c.toNat ≤ 13) || c = ' ' else Text.isBlank c

/-- The characters of a number's text as digits are read: each decimal digit of any script as
its ASCII digit, with the blanks around them removed. -/
def numberChars (text : String) : List Char :=
  let cs := text.toList.map Text.asciiDigit
  ((cs.dropWhile isNumberBlank).reverse.dropWhile isNumberBlank).reverse

/-- An integer in a base (2, 8, 10 or 16): trimmed of blanks, with an optional sign and the
base's prefix, then its digits. -/
def readInteger (text : String) (base : Nat) : Except NumberError Int :=
  let cs := numberChars text
  let (negative, unsigned) := match cs with
    | '-' :: rest => (true, rest)
    | '+' :: rest => (false, rest)
    | _ => (false, cs)
  let digits := dropBasePrefix base unsigned
  -- the length of a decimal is checked on its leading digits, before what follows them
  let run := digits.takeWhile fun c => (digitValue c).any (· < base)
  if base = 10 ∧ run.length > integerDigitLimit then
    .error ⟨"ValueError", (NumeralError.integerTooLong run.length).message⟩
  else match digitsValue base digits with
    | none => .error (invalidInteger text base)
    | some v => .ok (if negative then -Int.ofNat v else Int.ofNat v)

def splitPoint (cs : List Char) : List Char × Option (List Char) :=
  match cs.span (· ≠ '.') with
  | (whole, _ :: frac) => (whole, some frac)
  | (whole, []) => (whole, none)

def allDigits (cs : List Char) : Bool := cs.all fun c => '0' ≤ c && c ≤ '9'

def decimalValue (cs : List Char) : Nat :=
  cs.foldl (fun acc c => acc * 10 + (c.toNat - '0'.toNat)) 0

def infinity (negative : Bool) : Float :=
  Float.ofBits (UInt64.ofNat ((if negative then Nat.pow 2 63 else 0) + 2047 * Nat.pow 2 52))

def notANumber : Float := Float.ofBits 0x7FF8000000000000

/-- A decimal `digits · 10^exponent` rounded to binary64, with a sign. Far beyond the finite
range the result is infinity or zero without computing the power. -/
def decimalFloat (negative : Bool) (digits : Nat) (exponent : Int) : Float :=
  let size : Int := Int.ofNat (toString digits).length
  if digits = 0 then Binary64.nearest negative 0 1
  else if size + exponent > 400 then infinity negative
  else if size + exponent < -400 then Binary64.nearest negative 0 1
  else if 0 ≤ exponent then Binary64.nearest negative (digits * Nat.pow 10 exponent.toNat) 1
  else Binary64.nearest negative digits (Nat.pow 10 (-exponent).toNat)

/-- A float written as a decimal: trimmed of blanks, an optional sign, then `inf`, `infinity`
or `nan` in any case, or digits with an optional point and an optional exponent, with at least
one digit before the exponent. -/
def readDecimal (text : String) : Option Float :=
  let cs := numberChars text
  let (negative, unsigned) := match cs with
    | '-' :: rest => (true, rest)
    | '+' :: rest => (false, rest)
    | _ => (false, cs)
  let word := String.ofList (unsigned.map Char.toLower)
  if word = "inf" ∨ word = "infinity" then some (infinity negative)
  else if word = "nan" then some notANumber
  else
    let (mantissa, exponentPart) := match unsigned.span fun c => c ≠ 'e' && c ≠ 'E' with
      | (m, _ :: e) => (m, some e)
      | (m, []) => (m, none)
    let (whole, frac) := splitPoint mantissa
    let fracDigits := frac.getD []
    let exponent : Option Int := match exponentPart with
      | none => some 0
      | some e =>
        let (eNegative, eDigits) := match e with
          | '-' :: rest => (true, rest)
          | '+' :: rest => (false, rest)
          | _ => (false, e)
        if !eDigits.isEmpty && allDigits eDigits then
          some ((if eNegative then -1 else 1) * Int.ofNat (decimalValue eDigits))
        else none
    if (whole.isEmpty && fracDigits.isEmpty) || !allDigits whole || !allDigits fracDigits then none
    else exponent.map fun ex =>
      decimalFloat negative (decimalValue (whole ++ fracDigits)) (ex - Int.ofNat fracDigits.length)

def invalidFloat (text : String) : NumberError :=
  ⟨"ValueError", "could not convert string to float: " ++ Text.quoted text⟩

def emptyIndex : NumberError := ⟨"IndexError", "string index out of range"⟩

def dropUnderscores (s : String) : String := String.ofList (s.toList.filter (· ≠ '_'))

def colonGroups (s : String) : List String := s.splitOn ":"

def sexagesimal (groups : List Int) : Int :=
  groups.foldl (fun acc g => acc * 60 + g) 0

/-- The integer a scalar tagged `int` stands for. -/
def intOfScalar (text : String) : Except NumberError Int := do
  let value := dropUnderscores text
  let some first := value.toList.head? | throw emptyIndex
  let sign : Int := if first = '-' then -1 else 1
  let value := if first = '-' ∨ first = '+' then String.ofList (value.toList.drop 1) else value
  if value = "0" then return 0
  if value.startsWith "0b" then return sign * (← readInteger (String.ofList (value.toList.drop 2)) 2)
  if value.startsWith "0x" then return sign * (← readInteger (String.ofList (value.toList.drop 2)) 16)
  let some lead := value.toList.head? | throw emptyIndex
  if lead = '0' then return sign * (← readInteger value 8)
  if value.toList.contains ':' then
    let groups ← (colonGroups value).mapM fun g => readInteger g 10
    return sign * sexagesimal groups
  return sign * (← readInteger value 10)

/-- The float a scalar tagged `float` stands for: a number, or `none` for the NaN that `.nan`
stands for, which is one and the same value wherever it is written. -/
def floatOfScalar (text : String) : Except NumberError (Option Float) := do
  let value := Text.lower (dropUnderscores text)
  let some first := value.toList.head? | throw emptyIndex
  let negative := first = '-'
  let value := if first = '-' ∨ first = '+' then String.ofList (value.toList.drop 1) else value
  if value = ".inf" then return some (infinity negative)
  if value = ".nan" then return none
  let signed (f : Float) : Float := if negative then -f else f
  if value.toList.contains ':' then
    let groups ← (colonGroups value).mapM fun g =>
      match readDecimal g with
      | some f => pure f
      | none => throw (invalidFloat g)
    let (total, _) ← groups.reverse.foldlM (fun (acc, power) g => do
      let weight := Binary64.nearest false power 1
      if Binary64.isInfinite weight then
        throw (⟨"OverflowError", "int too large to convert to float"⟩ : NumberError)
      pure (acc + g * weight, power * 60)) ((0 : Float), (1 : Nat))
    return some (signed total)
  match readDecimal value with
  | some f => return some (signed f)
  | none => throw (invalidFloat value)

end HiveDdl.Yaml
