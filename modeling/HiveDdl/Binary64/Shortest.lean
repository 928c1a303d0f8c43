import HiveDdl.Binary64.Basic
/-!
# The shortest decimal of a binary64 number

Every finite binary64 number is read back from many decimals: all those in its rounding
interval, the reals nearer to it than to either neighbour (the ends belong to it when its
significand is even). The shortest decimal of a number has the fewest significant digits among
them, and of two such the one nearer to the number.

For `p = 1, 2, …` the number's two neighbours on the grid of `p` significant digits are tested
against the interval in exact arithmetic; the first `p` with a hit gives the digits. Seventeen
digits always suffice.

A style then lays the digits out: positionally for moderate decimal exponents, in exponent form
otherwise.

* `shortestDigits m e`: the digits and decimal point position of `m · 2^e`.
* `FloatStyle.render`: a number as text.
-/

namespace HiveDdl.Binary64

def compareScaled (c : Nat) (j : Int) (x : Nat) (f : Int) : Ordering :=
  let (a2, b2) := powTwo f
  let lhs := c * (if 0 ≤ j then Nat.pow 10 j.toNat else 1) * b2
  let rhs := x * a2 * (if 0 ≤ j then 1 else Nat.pow 10 (-j).toNat)
  compare lhs rhs

def floorScaled (x : Nat) (f j : Int) : Nat :=
  let (a2, b2) := powTwo f
  let num := x * a2 * (if 0 ≤ j then 1 else Nat.pow 10 (-j).toNat)
  let den := b2 * (if 0 ≤ j then Nat.pow 10 j.toNat else 1)
  num / den

def decimalExponent (x : Nat) (f : Int) : Int :=
  let guess : Int := (Int.ofNat x.log2 + f) * 30103 / 100000
  -- the guess is off by at most two either way
  let candidates := (List.range 7).map fun i => guess - 3 + Int.ofNat i
  (candidates.find? fun k => compareScaled 1 k x f == .gt).getD (guess + 4)

def digitsOf (n : Nat) : List Nat :=
  (Nat.toDigits 10 n).map fun c => c.toNat - '0'.toNat

def dropTrailingZeros (ds : List Nat) : List Nat :=
  (ds.reverse.dropWhile (· == 0)).reverse

/-- The shortest decimal of the positive number `m · 2^e`: its significant digits and the
position of the decimal point, so that the number reads `0.d₁d₂… · 10^point`. -/
def shortestDigits (m : Nat) (e : Int) : List Nat × Int :=
  -- in units of 2^(e-2): the number, and the ends of its rounding interval
  let x := 4 * m
  let f := e - 2
  let high := x + 2
  let low := if m = Nat.pow 2 52 ∧ e > -1074 then x - 1 else x - 2
  let inclusive := m % 2 = 0
  let inside (c : Nat) (j : Int) : Bool :=
    let lo := compareScaled c j low f
    let hi := compareScaled c j high f
    (lo == .gt || (inclusive && lo == .eq)) && (hi == .lt || (inclusive && hi == .eq))
  let k := decimalExponent x f
  let pick (p : Nat) : Option (Nat × Int) :=
    let j := k - Int.ofNat p
    let below := floorScaled x f j
    let above := below + 1
    match inside below j, inside above j with
    | true, true =>
      -- the nearer of the two; at equal distance the even one
      let twice := compareScaled (2 * below + 1) j (2 * x) f
      if twice == .gt then some (below, j)
      else if twice == .lt then some (above, j)
      else if below % 2 = 0 then some (below, j) else some (above, j)
    | true, false => some (below, j)
    | false, true => some (above, j)
    | false, false => none
  let found := ((List.range 17).map (· + 1)).findSome? pick
  let (c, j) := found.getD (floorScaled x f (k - 17), k - 17)
  let ds := digitsOf c
  (dropTrailingZeros ds, j + Int.ofNat ds.length)

/-- How a number is written: the decimal point positions written positionally (`low < point ≤
high`), the least number of exponent digits, and the texts of infinity and NaN. -/
structure FloatStyle where
  low : Int
  high : Int
  exponentDigits : Nat
  infinity : String
  notANumber : String

/-- The standard style: positional for points from `-3` to `16` (numbers from `0.0001` to below
`10^16`), otherwise one digit, a point and the rest when there is a rest, `e`, a sign and at
least two exponent digits. A number without fraction is written with `.0`. -/
def FloatStyle.standard : FloatStyle := ⟨-4, 16, 2, "inf", "nan"⟩

def digitText (ds : List Nat) : String :=
  String.ofList (ds.map fun d => Char.ofNat ('0'.toNat + d))

def FloatStyle.layout (s : FloatStyle) (ds : List Nat) (point : Int) : String :=
  if s.low < point ∧ point ≤ s.high then
    if point ≤ 0 then "0." ++ String.ofList (List.replicate (-point).toNat '0') ++ digitText ds
    else if point.toNat ≥ ds.length then
      digitText ds ++ String.ofList (List.replicate (point.toNat - ds.length) '0') ++ ".0"
    else digitText (ds.take point.toNat) ++ "." ++ digitText (ds.drop point.toNat)
  else
    let exp := point - 1
    let expDigits := toString exp.natAbs
    let padded := String.ofList (List.replicate (s.exponentDigits - expDigits.length) '0') ++ expDigits
    let head := digitText (ds.take 1)
    let rest := ds.drop 1
    head ++ (if rest.isEmpty then "" else "." ++ digitText rest) ++ "e" ++
      (if exp < 0 then "-" else "+") ++ padded

/-- A number as text in a style. -/
def FloatStyle.render (s : FloatStyle) (f : Float) : String :=
  match Parts.ofFloat f with
  | .nan => s.notANumber
  | .infinite negative => (if negative then "-" else "") ++ s.infinity
  | .finite negative m e =>
    let sign := if negative then "-" else ""
    if m = 0 then sign ++ "0.0"
    else
      let (ds, point) := shortestDigits m e
      sign ++ s.layout ds point

end HiveDdl.Binary64
