/-!
# Binary64 numbers as exact quantities

A binary64 number is a sign, an 11-bit exponent field and a 52-bit fraction. A finite one is
`±m · 2^e` exactly, with `m < 2^53`; the largest exponent field is kept for the infinities and
NaN.

Reading a decimal, or any ratio of naturals, gives the binary64 number nearest to it, a tie
going to the even significand, and infinity past the largest finite number. The work is done on
naturals, so it is exact for every input, subnormal numbers included.

* `Parts.ofBits`: a number taken apart.
* `nearestBits negative num den`: the bits of the number nearest to `num / den`.
-/

namespace HiveDdl.Binary64

/-- A binary64 number taken apart: a finite `±significand · 2^exponent`, an infinity, or NaN. -/
inductive Parts where
  | finite (negative : Bool) (significand : Nat) (exponent : Int)
  | infinite (negative : Bool)
  | nan
deriving Repr, DecidableEq

/-- The number a bit pattern stands for. -/
def Parts.ofBits (bits : UInt64) : Parts :=
  let n := bits.toNat
  let negative := n ≥ Nat.pow 2 63
  let field := (n / Nat.pow 2 52) % Nat.pow 2 11
  let fraction := n % Nat.pow 2 52
  if field = 2047 then (if fraction = 0 then .infinite negative else .nan)
  else if field = 0 then .finite negative fraction (-1074)
  else .finite negative (fraction + Nat.pow 2 52) (Int.ofNat field - 1075)

def Parts.ofFloat (f : Float) : Parts := Parts.ofBits f.toBits

def powTwo (k : Int) : Nat × Nat :=
  if 0 ≤ k then (Nat.pow 2 k.toNat, 1) else (1, Nat.pow 2 (-k).toNat)

def atLeastPowTwo (num den : Nat) (k : Int) : Bool :=
  let (a, b) := powTwo k
  num * b ≥ den * a

def floorLog2 (num den : Nat) : Int :=
  let guess : Int := Int.ofNat num.log2 - Int.ofNat den.log2
  if atLeastPowTwo num den guess then guess else guess - 1

def signBits (negative : Bool) : Nat := if negative then Nat.pow 2 63 else 0

/-- The bits of the binary64 number nearest to `num / den` (`den > 0`), with the given sign:
ties go to the even significand, and numbers past the largest finite one round to infinity. -/
def nearestBits (negative : Bool) (num den : Nat) : UInt64 :=
  if num = 0 ∨ den = 0 then UInt64.ofNat (signBits negative) else
  let e := max (floorLog2 num den - 52) (-1074)
  let (a, b) := powTwo e
  -- num / den = (q + r / d) · 2^e
  let top := num * b
  let d := den * a
  let q := top / d
  let r := top % d
  let up := 2 * r > d ∨ (2 * r = d ∧ q % 2 = 1)
  let q := if up then q + 1 else q
  let (q, e) := if q = Nat.pow 2 53 then (Nat.pow 2 52, e + 1) else (q, e)
  if q < Nat.pow 2 52 then UInt64.ofNat (signBits negative + q)
  else
    let field := e + 1075
    if field ≥ 2047 then UInt64.ofNat (signBits negative + 2047 * Nat.pow 2 52)
    else UInt64.ofNat (signBits negative + field.toNat * Nat.pow 2 52 + (q - Nat.pow 2 52))

def nearest (negative : Bool) (num den : Nat) : Float :=
  Float.ofBits (nearestBits negative num den)

def isInfinite (f : Float) : Bool :=
  match Parts.ofFloat f with
  | .infinite _ => true
  | _ => false

example : Parts.ofBits 0x3FF0000000000000 = .finite false (Nat.pow 2 52) (-52) := by decide
example : nearestBits false 1 1 = 0x3FF0000000000000 := by decide
example : nearestBits true 1 2 = 0xBFE0000000000000 := by decide

end HiveDdl.Binary64
