/-!
# Lenient base64

Base64 text read leniently: characters outside the alphabet are skipped, and a `=` ends the
data once a group has at least two characters and the padding completes it. What is left at the
end decides the outcome: a group of one character cannot stand for any bytes, a group of two or
three without its padding is incorrectly padded.

* `Base64.decode text`: the bytes of a text, or why it has none.
-/

namespace HiveDdl.Text.Base64

/-- Why base64 text has no bytes. -/
inductive Base64Error where
  /-- A final group of one character; the count of data characters read. -/
  | lonely (count : Nat)
  | incorrectPadding
deriving Repr, DecidableEq

def Base64Error.message : Base64Error → String
  | .lonely n => "Invalid base64-encoded string: number of data characters (" ++ toString n ++
      ") cannot be 1 more than a multiple of 4"
  | .incorrectPadding => "Incorrect padding"

def sextet (c : Char) : Option Nat :=
  if 'A' ≤ c && c ≤ 'Z' then some (c.toNat - 'A'.toNat)
  else if 'a' ≤ c && c ≤ 'z' then some (c.toNat - 'a'.toNat + 26)
  else if '0' ≤ c && c ≤ '9' then some (c.toNat - '0'.toNat + 52)
  else if c = '+' then some 62
  else if c = '/' then some 63
  else none

/-- Decoding state: the position in the current group, the bits carried, the `=` seen since the
last data character, and the bytes so far (last first). -/
structure State where
  pos : Nat
  carry : Nat
  pads : Nat
  out : List UInt8

def run : List Char → State → State × Bool
  | [], s => (s, false)
  | c :: rest, s =>
    if c = '=' then
      if s.pos ≥ 2 ∧ s.pos + (s.pads + 1) ≥ 4 then ({ s with pads := s.pads + 1 }, true)
      else run rest (if s.pos ≥ 2 then { s with pads := s.pads + 1 } else s)
    else match sextet c with
      | none => run rest s
      | some v =>
        match s.pos with
        | 0 => run rest ⟨1, v, 0, s.out⟩
        | 1 => run rest ⟨2, v % 16, 0, UInt8.ofNat (s.carry * 4 + v / 16) :: s.out⟩
        | 2 => run rest ⟨3, v % 4, 0, UInt8.ofNat (s.carry * 16 + v / 4) :: s.out⟩
        | _ => run rest ⟨0, 0, 0, UInt8.ofNat (s.carry * 64 + v) :: s.out⟩

def decode (text : String) : Except Base64Error (List UInt8) :=
  let (s, padded) := run text.toList ⟨0, 0, 0, []⟩
  if padded ∨ s.pos = 0 then .ok s.out.reverse
  else if s.pos = 1 then .error (.lonely (s.out.length / 3 * 4 + 1))
  else .error .incorrectPadding

example : (decode "aGk=").toOption = some [104, 105] := by decide
example : (decode "ab=c=").toOption = some [105, 183] := by decide

end HiveDdl.Text.Base64
