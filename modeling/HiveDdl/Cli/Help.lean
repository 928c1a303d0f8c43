/-!
# Help pages

Help pages are laid out for a width of 78 columns. A text is wrapped greedily: it is cut into
words and runs of blanks, a line takes chunks while they fit, and the blanks at the start of a
continued line and at the end of every line are dropped. Words are never broken here; the texts
of this program have none longer than a line.

A definition list puts its terms in a column as wide as the widest term (at most 30), two
spaces, then the wrapped definitions; a longer term takes a line of its own.

* `wrapText width text`: the lines of a wrapped text.
* `definitionList rows`: the lines of a definition list, indented by two.
-/

namespace HiveDdl.Cli

def helpWidth : Nat := 78

def isSpaceChar (c : Char) : Bool := c = ' ' || c = '\t' || c = '\n'

/-- Characters cut into alternating runs of word characters and of blanks, given the run
being read (reversed) and whether it is blank. -/
def chunksFrom (run : List Char) (blank : Bool) : List Char → List String
  | [] => if run.isEmpty then [] else [String.ofList run.reverse]
  | c :: rest =>
    if run.isEmpty || isSpaceChar c == blank then chunksFrom (c :: run) (isSpaceChar c) rest
    else String.ofList run.reverse :: chunksFrom [c] (isSpaceChar c) rest

def chunks (cs : List Char) : List String := chunksFrom [] false cs

def isBlankChunk (s : String) : Bool := s.toList.all isSpaceChar

/-- Fills one line from chunks: drops a leading blank chunk unless it is the first line, takes
chunks while they fit, and drops a trailing blank chunk. Returns the line and the chunks left. -/
def fillLine (width : Nat) (first : Bool) (cs : List String) : String × List String :=
  let cs := match cs with
    | c :: rest => if !first && isBlankChunk c then rest else cs
    | [] => []
  let rec take (used : Nat) : List String → List String × List String
    | [] => ([], [])
    | c :: rest =>
      if used + c.length ≤ width then
        let (line, left) := take (used + c.length) rest
        (c :: line, left)
      else ([], c :: rest)
  let (line, left) := take 0 cs
  let line := match line.getLast? with
    | some c => if isBlankChunk c then line.dropLast else line
    | none => line
  match line, left with
  | [], c :: rest => (c, rest)
  | _, _ => (String.join line, left)

def wrapLines (width : Nat) : Nat → Bool → List String → List String
  | 0, _, _ => []
  | fuel + 1, first, cs =>
    let cs' := match cs with
      | c :: rest => if !first && isBlankChunk c then rest else cs
      | [] => []
    if cs'.isEmpty then []
    else
      let (line, left) := fillLine width first cs
      line :: wrapLines width fuel false left

def wrapText (width : Nat) (text : String) : List String :=
  let cs := chunks text.toList
  wrapLines width (cs.length + 1) true cs

def spaces (n : Nat) : String := String.ofList (List.replicate n ' ')

def definitionList (rows : List (String × String)) : List String :=
  let widest := (rows.map (·.1.length)).foldl max 0
  let column := min widest 30 + 2
  let textWidth := max (helpWidth - column - 2) 10
  rows.flatMap fun (term, text) =>
    let lines := wrapText textWidth text
    let continued := lines.drop 1 |>.map (spaces (column + 2) ++ ·)
    if term.length ≤ column - 2 then
      ("  " ++ term ++ spaces (column - term.length) ++ lines.headD "") :: continued
    else
      ("  " ++ term) :: (lines.take 1 |>.map (spaces (column + 2) ++ ·)) ++ continued

/-- A help page: the usage line, the description indented by two, and titled definition lists,
each part after a blank line. -/
def helpPage (usage description : String) (sections : List (String × List (String × String))) :
    String :=
  let descriptionLines := (wrapText (helpWidth - 2) description).map ("  " ++ ·)
  let parts := [["Usage: " ++ usage], descriptionLines] ++
    sections.map fun (title, rows) => (title ++ ":") :: definitionList rows
  "\n\n".intercalate (parts.map ("\n".intercalate ·))

end HiveDdl.Cli
