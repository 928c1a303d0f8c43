import HiveDdl.Text.Quote
/-!
# Marks and problems of YAML texts

A mark is a place in a YAML text: character index, line and column, both counted from zero.
A problem names what went wrong, where (its mark), and optionally the construct it was inside
and where that began (its context). Shown, a problem lists the context, the context's mark when
it differs from the problem's, the problem and the problem's mark; each mark shows its line and
column counted from one and a snippet of its line with a caret under the place.

A snippet shows at most about 36 characters on each side of the place; a longer side is cut
and marked ` ... `.

* `LoadError.show text`: a load error as shown, for a text.
* `checkAcceptable text`: refuses characters that YAML texts may not hold.
* `LoadError`: a problem, a character the loader does not accept, or a failure that is not a
  YAML error at all (a value the loader cannot build).
-/

namespace HiveDdl.Yaml

/-- A place in a YAML text: character index, line and column, counted from zero. -/
structure Mark where
  index : Nat
  line : Nat
  column : Nat
deriving Repr, DecidableEq, Inhabited

/-- What went wrong, where, and inside what. -/
structure Problem where
  context : Option String
  contextMark : Option Mark
  problem : String
  problemMark : Mark
deriving Repr

/-- Why a YAML text does not load. -/
inductive LoadError where
  /-- A character that YAML texts may not hold, with its position. -/
  | unacceptable (code position : Nat)
  | marked (p : Problem)
  /-- A value that cannot be built: the kind of failure and its message. -/
  | failure (kind message : String)
deriving Repr

def sourceName : String := "<unicode string>"

def isSnippetStop (c : Char) : Bool :=
  c = '\x00' || c = '\r' || c = '\n' || c = '\x85' || c = '\u2028' || c = '\u2029'

/-- Where the snippet of a place starts, and whether its start was cut: back to the start of
the line, or 32 characters back with a cut when the line goes back 37 or more. -/
def snippetStart (buf : Array Char) (pointer : Nat) : Nat → Nat → Nat × Bool
  | 0, start => (start, false)
  | fuel + 1, start =>
    if start > 0 && !isSnippetStop (buf.getD (start - 1) '\x00') then
      if pointer - (start - 1) ≥ 37 then (start + 4, true)
      else snippetStart buf pointer fuel (start - 1)
    else (start, false)

def snippetEnd (buf : Array Char) (pointer : Nat) : Nat → Nat → Nat × Bool
  | 0, stop => (stop, false)
  | fuel + 1, stop =>
    if stop < buf.size && !isSnippetStop (buf.getD stop '\x00') then
      if stop + 1 - pointer ≥ 37 then (stop - 4, true)
      else snippetEnd buf pointer fuel (stop + 1)
    else (stop, false)

/-- The snippet of a place: its line (cut around the place when long), indented by four, and
a caret under the place. -/
def snippet (buf : Array Char) (pointer : Nat) : String :=
  let (start, cutStart) := snippetStart buf pointer (pointer + 1) pointer
  let (stop, cutEnd) := snippetEnd buf pointer (buf.size + 1) pointer
  let head := if cutStart then " ... " else ""
  let tail := if cutEnd then " ... " else ""
  let text := String.ofList (buf.extract start stop).toList
  "    " ++ head ++ text ++ tail ++ "\n" ++
    String.ofList (List.replicate (4 + (pointer - start) + head.length) ' ') ++ "^"

def Mark.show (buf : Array Char) (m : Mark) : String :=
  "  in \"" ++ sourceName ++ "\", line " ++ toString (m.line + 1) ++ ", column " ++
    toString (m.column + 1) ++ ":\n" ++ snippet buf m.index

def Problem.show (buf : Array Char) (p : Problem) : String :=
  let contextLines := match p.context with
    | some c => [c]
    | none => []
  let contextMarkLines := match p.contextMark with
    | some m =>
      if m.line ≠ p.problemMark.line ∨ m.column ≠ p.problemMark.column then [m.show buf] else []
    | none => []
  "\n".intercalate (contextLines ++ contextMarkLines ++ [p.problem, p.problemMark.show buf])

/-- Characters a YAML text may hold: tab, line feed, carriage return, printable ASCII, next
line, and the rest of Unicode from no-break space on, but for the two noncharacters at the end of
the basic plane. -/
def isAcceptable (c : Char) : Bool :=
  c = '\t' || c = '\n' || c = '\r' || (0x20 ≤ c.toNat && c.toNat ≤ 0x7E) || c.toNat = 0x85 ||
    (0xA0 ≤ c.toNat && c.toNat ≤ 0xFFFD) || 0x10000 ≤ c.toNat

/-- Refuses a text holding a character that YAML texts may not hold, naming the first. -/
def checkAcceptable (text : String) : Except LoadError Unit :=
  match (text.toList.zipIdx.find? fun (c, _) => !isAcceptable c) with
  | some (c, i) => .error (.unacceptable c.toNat i)
  | none => .ok ()

def buffer (text : String) : Array Char :=
  (text.toList ++ ['\x00']).toArray

/-- A load error as shown for a text; failures that are not YAML errors show their message. -/
def LoadError.show (text : String) : LoadError → String
  | .unacceptable code position =>
    "unacceptable character #x" ++ Text.hexPadded 4 code ++
      ": special characters are not allowed\n  in \"" ++ sourceName ++ "\", position " ++
      toString position
  | .marked p => p.show (buffer text)
  | .failure _ message => message

end HiveDdl.Yaml
