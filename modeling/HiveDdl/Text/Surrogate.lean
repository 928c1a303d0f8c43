/-!
# Lone surrogates

Texts read from documents may hold lone surrogates: a JSON escape of a surrogate (`\ud800`) that
is not the first half of a pair stands for that code point on its own. Lean strings hold Unicode
scalar values only, so a lone surrogate `U+D800 + k` is held as the private-use character
`U+FD800 + k`, `0xF0000` above it. Whatever shows or orders texts by code point (quoting,
encoding, sorting) reads those characters as the surrogates they stand for; case mapping,
blanks and digits leave both alike, since neither a surrogate nor a private-use character has a
case, is blank or is a digit.

* `standIn code`: the character that holds a lone surrogate.
* `surrogateOf? c`: the surrogate a character stands for, if it is a stand-in.
* `codePoint c`: the code point a character stands for.
* `codeLE a b`: texts compared by the code points they stand for.
-/

namespace HiveDdl.Text

def standInOffset : Nat := 0xF0000

def standIn (code : Nat) : Char := Char.ofNat (code + standInOffset)

def surrogateOf? (c : Char) : Option Nat :=
  if 0xFD800 ≤ c.toNat ∧ c.toNat ≤ 0xFDFFF then some (c.toNat - standInOffset) else none

/-- The code point a character stands for: its surrogate for a stand-in, else its own. -/
def codePoint (c : Char) : Nat := (surrogateOf? c).getD c.toNat

def codesLE : List Nat → List Nat → Bool
  | [], _ => true
  | _ :: _, [] => false
  | a :: as, b :: bs => a < b || (a == b && codesLE as bs)

/-- Texts compared by the code points they stand for: the first differing code point decides,
and a text comes before the texts it begins. -/
def codeLE (a b : String) : Bool :=
  codesLE (a.toList.map codePoint) (b.toList.map codePoint)

theorem surrogateOf?_standIn {code : Nat} (lo : 0xD800 ≤ code) (hi : code ≤ 0xDFFF) :
    surrogateOf? (standIn code) = some code := by
  have hv : (code + standInOffset).isValidChar := by
    unfold standInOffset Nat.isValidChar; omega
  have h : (standIn code).toNat = code + standInOffset := by
    rw [standIn, Char.ofNat, dif_pos hv]
    rfl
  simp only [surrogateOf?, h, standInOffset]
  rw [if_pos (by omega)]
  simp

theorem codePoint_of_lt {c : Char} (h : c.toNat < 0xFD800) : codePoint c = c.toNat := by
  simp [codePoint, surrogateOf?, show ¬ (0xFD800 ≤ c.toNat) by omega]

end HiveDdl.Text
