import HiveDdl.Text.PrintableTable
import HiveDdl.Text.Surrogate
/-!
# Quoted texts

A text shown inside quotes, the way messages show names and characters they complain about:
single quotes, or double quotes when the text holds a single quote and no double quote; the
chosen quote and the backslash escaped; tab, line feed and carriage return as `\t`, `\n`, `\r`;
other characters that are not printable as `\x..`, `\u....` or `\U........` (lower-case hex),
a lone surrogate among them.

* `quoted s`: the text in quotes.
* `quotedBytes bs`: a byte string the same way, prefixed by `b`, bytes outside printable ASCII
  as `\x..`.
* `hexPadded width n`: `n` in lower-case hex, zero-padded to `width` digits.
-/

namespace HiveDdl.Text

def isPrintable (c : Char) : Bool :=
  !(unprintableRanges.any fun r => r.1 ≤ c.toNat && c.toNat ≤ r.2)

def hexDigit (n : Nat) : Char :=
  if n < 10 then Char.ofNat (48 + n) else Char.ofNat (87 + n)

def hexDigits (n : Nat) : List Char :=
  if n < 16 then [hexDigit n] else hexDigits (n / 16) ++ [hexDigit (n % 16)]
termination_by n
decreasing_by omega

def hexPadded (width n : Nat) : String :=
  let ds := hexDigits n
  String.ofList (List.replicate (width - ds.length) '0' ++ ds)

def escapeChar (quote c : Char) : String :=
  let n := codePoint c
  if c = quote ∨ c = '\\' then "\\" ++ c.toString
  else if c = '\t' then "\\t"
  else if c = '\n' then "\\n"
  else if c = '\r' then "\\r"
  else if n < 0x20 ∨ n = 0x7F then "\\x" ++ hexPadded 2 n
  else if n < 0x7F then c.toString
  else if isPrintable c then c.toString
  else if n ≤ 0xFF then "\\x" ++ hexPadded 2 n
  else if n ≤ 0xFFFF then "\\u" ++ hexPadded 4 n
  else "\\U" ++ hexPadded 8 n

def quoteFor (hasSingle hasDouble : Bool) : Char :=
  if hasSingle && !hasDouble then '"' else '\''

def quoted (s : String) : String :=
  let q := quoteFor (s.toList.contains '\'') (s.toList.contains '"')
  q.toString ++ String.join (s.toList.map (escapeChar q)) ++ q.toString

def escapeByte (quote : Char) (b : UInt8) : String :=
  let n := b.toNat
  if n = quote.toNat ∨ n = 0x5C then "\\" ++ (Char.ofNat n).toString
  else if n = 0x09 then "\\t"
  else if n = 0x0A then "\\n"
  else if n = 0x0D then "\\r"
  else if n < 0x20 ∨ n ≥ 0x7F then "\\x" ++ hexPadded 2 n
  else (Char.ofNat n).toString

def quotedBytes (bs : List UInt8) : String :=
  let q := quoteFor (bs.contains 0x27) (bs.contains 0x22)
  "b" ++ q.toString ++ String.join (bs.map (escapeByte q)) ++ q.toString

end HiveDdl.Text
