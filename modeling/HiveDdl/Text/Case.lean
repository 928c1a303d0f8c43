import HiveDdl.Text.CaseTable
/-!
# Full case mapping

Lower and upper case forms of texts under the full case mapping of Unicode: a character may
map to several (`İ` lowers to `i` and a combining dot, `ß` uppers to `SS`), and a capital sigma
lowers to the final form `ς` when it ends a word.

* `lowerChar`, `upperChar`: the context-free forms of one character.
* `lower`, `upper`: the forms of a text; `lower` applies the final sigma rule.
-/

namespace HiveDdl.Text

def mapByRuns (runs : Array CaseRun) (n : Nat) : Option Nat :=
  (runs.find? (·.covers n)).map fun r => (Int.ofNat n + r.offset).toNat

def inRanges (rs : Array (Nat × Nat)) (n : Nat) : Bool :=
  rs.any fun r => r.1 ≤ n && n ≤ r.2

def caseForm (runs : Array CaseRun) (expansions : Array (Nat × List Nat)) (c : Char) :
    List Char :=
  match expansions.find? (·.1 == c.toNat) with
  | some e => e.2.map Char.ofNat
  | none =>
    match mapByRuns runs c.toNat with
    | some n => [Char.ofNat n]
    | none => [c]

/-- The lowercase form of one character, outside any context. -/
def lowerChar (c : Char) : List Char :=
  caseForm lowerRuns lowerExpansions c

/-- The uppercase form of one character. -/
def upperChar (c : Char) : List Char :=
  caseForm upperRuns upperExpansions c

/-- Case-ignorable characters (combining marks, format characters, modifier letters and the
word-internal punctuation) are skipped when looking for the letters around a sigma. -/
def isCaseIgnorable (c : Char) : Bool :=
  inRanges ignorableRanges c.toNat

def isCased (c : Char) : Bool :=
  inRanges casedRanges c.toNat

def firstSignificant (cs : List Char) : Option Char :=
  cs.find? fun c => !isCaseIgnorable c

/-- A capital sigma is final when a cased letter precedes it and none follows it, skipping
case-ignorable characters on both sides. `before` lists the preceding characters nearest
first. -/
def sigmaIsFinal (before after : List Char) : Bool :=
  (match firstSignificant before with
   | some c => isCased c
   | none => false) &&
  (match firstSignificant after with
   | some c => !isCased c
   | none => true)

/-- Lowers a list of characters; `before` holds the characters already passed, nearest
first. -/
def lowerFrom (before : List Char) : List Char → List Char
  | [] => []
  | c :: rest =>
    let form :=
      if c = 'Σ' then (if sigmaIsFinal before rest then ['ς'] else ['σ']) else lowerChar c
    form ++ lowerFrom (c :: before) rest

/-- The full lowercase form of a text. -/
def lower (s : String) : String :=
  String.ofList (lowerFrom [] s.toList)

/-- The full uppercase form of a text. -/
def upper (s : String) : String :=
  String.ofList (s.toList.flatMap upperChar)

end HiveDdl.Text
