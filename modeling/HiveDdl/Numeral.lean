/-!
# Numerals and their canonical text

A numeral is a number as written: a sign, whole digits, fraction digits and an exponent. A
numeral without fraction and exponent reads as an integer, any other as an exact decimal, and
each has one canonical text:

* an integer is written without leading zeros, and zero without a sign;
* a decimal keeps all its digits (`1.50` stays `1.50`) and its sign (`-0.0` stays `-0.0`); it
  is written positionally when its exponent is at most zero and its leading digit is at most
  six places after the point, and otherwise as one digit, a point, the other digits and a
  signed exponent (`1E+5`, `1E-7`).

Integers have at most `integerDigitLimit` digits and decimals a bounded exponent; past these
bounds a numeral has no text (`NumeralError`).
-/

namespace HiveDdl

/-- A numeral as written. Digits are values below ten, the most significant first. -/
structure Numeral where
  negative : Bool
  whole : List Nat
  fraction : List Nat := []
  exponent : Option Int := none
deriving Repr, DecidableEq

/-- Why a numeral has no text. -/
inductive NumeralError where
  /-- An integer numeral with more digits than the limit. -/
  | integerTooLong (digits : Nat)
  /-- A decimal whose exponent is outside the representable range. -/
  | decimalOutOfRange
deriving Repr, DecidableEq

def NumeralError.message : NumeralError → String
  | .integerTooLong n =>
    s!"Exceeds the limit (4300 digits) for integer string conversion: value has {n} digits; " ++
      "use sys.set_int_max_str_digits() to increase the limit"
  | .decimalOutOfRange => "[<class 'decimal.InvalidOperation'>]"

/-- The most digits an integer numeral may have. -/
def integerDigitLimit : Nat := 4300

def decimalMaxLeading : Int := 999999999999999999

def decimalMinExponent : Int := -1999999999999999997

def digitText (ds : List Nat) : String :=
  String.ofList (ds.map fun d => Char.ofNat (0x30 + d))

def significant (ds : List Nat) : List Nat :=
  match ds.dropWhile (· == 0) with
  | [] => [0]
  | d :: rest => d :: rest

def Numeral.isDecimal (n : Numeral) : Bool :=
  !n.fraction.isEmpty || n.exponent.isSome

def signText (negative : Bool) : String :=
  if negative then "-" else ""

def Numeral.integerText (n : Numeral) : Except NumeralError String :=
  if n.whole.length > integerDigitLimit then .error (.integerTooLong n.whole.length)
  else
    match significant n.whole with
    | [0] => .ok "0"
    | ds => .ok (signText n.negative ++ digitText ds)

/-- Lays out a coefficient with the exponent of its last digit: positionally when the
exponent is at most zero and the leading digit at most six places after the point, else as a
single leading digit with a signed exponent. -/
def layoutDecimal (coefficient : List Nat) (exponent : Int) : String :=
  let len : Int := coefficient.length
  let leading := exponent + len
  if exponent ≤ 0 ∧ leading > -6 then
    if leading ≤ 0 then
      "0." ++ String.ofList (List.replicate (-leading).toNat '0') ++ digitText coefficient
    else if leading ≥ len then digitText coefficient
    else
      digitText (coefficient.take leading.toNat) ++ "." ++
        digitText (coefficient.drop leading.toNat)
  else
    let mantissa :=
      match coefficient with
      | [] => "0"
      | [d] => digitText [d]
      | d :: rest => digitText [d] ++ "." ++ digitText rest
    let shown := leading - 1
    mantissa ++ "E" ++ (if shown < 0 then "-" else "+") ++ digitText (Nat.toDigits 10
      shown.natAbs |>.map fun c => c.toNat - 0x30)

def Numeral.decimalText (n : Numeral) : Except NumeralError String :=
  let coefficient := significant (n.whole ++ n.fraction)
  let exponent := n.exponent.getD 0 - n.fraction.length
  if exponent + coefficient.length - 1 > decimalMaxLeading ∨ exponent < decimalMinExponent then
    .error .decimalOutOfRange
  else .ok (signText n.negative ++ layoutDecimal coefficient exponent)

def Numeral.text (n : Numeral) : Except NumeralError String :=
  if n.isDecimal then n.decimalText else n.integerText

example : Numeral.text ⟨false, [1], [], some 5⟩ = .ok "1E+5" := by rfl
example : Numeral.text ⟨false, [1], [0], some (-3)⟩ = .ok "0.0010" := by rfl
example : Numeral.text ⟨false, [0], [0, 0, 0, 0, 0, 0, 1], none⟩ = .ok "1E-7" := by rfl
example : Numeral.text ⟨true, [0], [0], none⟩ = .ok "-0.0" := by rfl
example : Numeral.text ⟨true, [0], [], none⟩ = .ok "0" := by rfl
example : Numeral.text ⟨false, [0], [], some 10⟩ = .ok "0E+10" := by rfl

end HiveDdl
