import HiveDdl.Value
import HiveDdl.Text.Blank
import HiveDdl.Text.Case
/-!
# Type paths

A type path names a subtree of the response to surface as a column of its own. It is the word
`Response` (any case), for the whole response, or a slash-delimited path of segments, optionally
ending in a filter `@key:value` that picks the first element of the array at the path whose
field `key` reads `value`. Blanks around an expression are ignored; empty segments are skipped.

A list of type paths is given as one comma-separated text or as a list of texts; blank entries
are skipped, and at least one path must remain.

* `TypePath.parse`: one expression; `TypePath.parseText`, `TypePath.parseEntries`: lists, the
  latter entry by entry (`TypePath.parseEntry`).
* `TypePath.columnName`: the column a path fills: `Response`, or the segments joined by `_`,
  followed by `_` and the filter's value.
-/

namespace HiveDdl

/-- The filter of a type path: the first element whose field `key` reads `value`. -/
structure ElementFilter where
  key : String
  value : String
deriving Repr, DecidableEq

/-- A parsed type path; no segments means the whole response. -/
structure TypePath where
  expression : String
  segments : List String
  filter : Option ElementFilter
deriving Repr, DecidableEq

/-- Why a type path is refused. -/
inductive PathProblem where
  | notAPath
  | noSegments
  | badFilter
  | noPaths
  | unresolved (segment : String)
  | notAnArray
deriving Repr, DecidableEq

def PathProblem.text : PathProblem → String
  | .notAPath => "expected 'Response' or a slash-delimited path"
  | .noSegments => "path has no segments"
  | .badFilter => "array filter must read '@key:value'"
  | .noPaths => "at least one type path is required"
  | .unresolved segment => "segment '" ++ segment ++ "' does not resolve"
  | .notAnArray => "filtered path does not resolve to an array"

/-- A refused type path with its expression. -/
structure PathError where
  expression : String
  problem : PathProblem
deriving Repr, DecidableEq

def PathError.message (e : PathError) : String :=
  "Invalid type path '" ++ e.expression ++ "': " ++ e.problem.text

/-- Why a list of type path entries is refused: a refused path, or an entry that is not text,
named by the kind of its value. -/
inductive PathListError where
  | path (e : PathError)
  | notText (kind : String)
deriving Repr, DecidableEq

def PathListError.message : PathListError → String
  | .path e => e.message
  | .notText kind => "'" ++ kind ++ "' object has no attribute 'strip'"

namespace TypePath

def isWholeResponse (p : TypePath) : Bool :=
  p.segments.isEmpty

def queryPath (p : TypePath) : String :=
  "/".intercalate p.segments

def columnName (p : TypePath) : String :=
  if p.segments.isEmpty then "Response"
  else
    let name := "_".intercalate p.segments
    match p.filter with
    | some f => name ++ "_" ++ f.value
    | none => name

def splitFirst (sep : Char) (cs : List Char) : List Char × Option (List Char) :=
  match cs.span (· ≠ sep) with
  | (before, _ :: after) => (before, some after)
  | (before, []) => (before, none)

def splitAll (sep : Char) (cs : List Char) : List (List Char) :=
  cs.splitOn sep

def parseFilter (expression : String) (text : List Char) :
    Except PathError ElementFilter :=
  match splitFirst ':' text with
  | (key, some value) =>
    if key.isEmpty || value.isEmpty then .error ⟨expression, .badFilter⟩
    else .ok ⟨String.ofList key, String.ofList value⟩
  | (_, none) => .error ⟨expression, .badFilter⟩

/-- Parses one expression. A refusal quotes the expression as given; a path keeps it
trimmed. -/
def parse (expression : String) : Except PathError TypePath :=
  let trimmed := Text.trim expression
  if Text.lower trimmed = "response" then .ok ⟨trimmed, [], none⟩
  else if !trimmed.toList.contains '/' then .error ⟨expression, .notAPath⟩
  else
    let (pathText, filterText) := splitFirst '@' trimmed.toList
    let segments := (splitAll '/' pathText).filter (!·.isEmpty) |>.map String.ofList
    if segments.isEmpty then .error ⟨expression, .noSegments⟩
    else
      match filterText with
      | none => .ok ⟨trimmed, segments, none⟩
      | some text => do
        let f ← parseFilter expression text
        pure ⟨trimmed, segments, some f⟩

def isBlankEntry (s : String) : Bool :=
  (Text.trim s).isEmpty

def parseAll (texts : List String) : Except PathError (List TypePath) := do
  let paths ← (texts.filter (!isBlankEntry ·)).mapM parse
  if paths.isEmpty then .error ⟨"", .noPaths⟩ else pure paths

def parseText (text : String) : Except PathError (List TypePath) :=
  parseAll (text.splitOn ",")

def kindName : Value → String
  | .null => "NoneType"
  | .bool _ => "bool"
  | .number t => if t.toList.any (fun c => c = '.' || c = 'e' || c = 'E' || c = 'n') then
      "float" else "int"
  | .string _ => "str"
  | .object _ => "dict"
  | .array _ => "list"

/-- The path of one entry of a list: none for a blank text; a text that is no path is refused as
a path, any other entry by its kind. -/
def parseEntry : Value → Except PathListError (Option TypePath)
  | .string s =>
    if isBlankEntry s then pure none
    else match parse s with
      | .ok p => pure (some p)
      | .error e => throw (.path e)
  | v => throw (.notText (kindName v))

def parseEntries (entries : List Value) : Except PathListError (List TypePath) := do
  let paths ← entries.filterMapM parseEntry
  if paths.isEmpty then throw (.path ⟨"", .noPaths⟩) else pure paths

end TypePath

end HiveDdl
