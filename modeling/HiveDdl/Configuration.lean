import HiveDdl.Generation
import HiveDdl.Workspace
import HiveDdl.Text.Utf8
import HiveDdl.Yaml.Construct
/-!
# Run configurations

A run configuration is a YAML file holding a mapping with at most four keys:

* `input_type`: `JSON` or `XML`, in any case, blanks trimmed (default `JSON`);
* `table_name`: a text, trimmed, not empty (default `hive_table`);
* `skip_keyed_response`: a boolean, `yes` and `on` included (default false);
* `type_paths`: a comma-separated text or a list of texts; blank entries are dropped from the
  text, and trimmed entries kept (default `Response`); at least one must be left.

Loading checks, in order: that the file exists, that it is UTF-8, that it is YAML with at most
one document, that the document is a mapping (an empty one counts as empty), that it has no
other keys (all of them are listed, sorted), and then each field in the order above.

* `requireText`, `requireBool`, `parseInputType`, `requirePaths`: the checks of the fields.
* `Configuration.loadDocument`, `Configuration.rootEntries`, `Configuration.checkKeys`,
  `Configuration.readFields`: the stages of reading a configuration text, in order.
* `Configuration.ofText`, `Configuration.load`: a configuration, or the error that stops it.
-/

namespace HiveDdl

open Yaml

/-- What a configuration file says. -/
structure Configuration where
  format : InputFormat
  tableName : String
  skipEnvelope : Bool
  typePaths : List String
deriving Repr, DecidableEq

def Configuration.settings (c : Configuration) : Settings :=
  ⟨c.format, c.tableName, c.skipEnvelope, PathSpec.ofTexts c.typePaths⟩

/-- Why a configuration does not load: a configuration problem with its message, or a failure
outside the checks (a value YAML cannot build, a directory read as a file). -/
inductive ConfigError where
  | invalid (message : String)
  | failure (kind message : String)
deriving Repr, DecidableEq

def defaultConfigPath : String := "hive-schema.yaml"

def configKeys : List String := ["input_type", "table_name", "skip_keyed_response", "type_paths"]

/-- Line ends as a text file is read: a carriage return with or without a line feed after it
becomes one line feed. -/
def universalNewlines : List Char → List Char
  | '\r' :: '\n' :: rest => '\n' :: universalNewlines rest
  | '\r' :: rest => '\n' :: universalNewlines rest
  | c :: rest => c :: universalNewlines rest
  | [] => []

def invalid {α : Type} (message : String) : Except ConfigError α := .error (.invalid message)

def fieldOf (heap : Array Datum) (entries : Array (Nat × Nat)) (key : String) : Option Datum :=
  (entries.find? fun (k, _) => match heap.getD k default with
    | .str s => s == key
    | _ => false).map fun (_, v) => heap.getD v default

/-- A text field: a text, trimmed, not empty. -/
def requireText (field : String) : Datum → Except ConfigError String
  | .str s =>
    let t := Text.trim s
    if t.isEmpty then invalid (field ++ " must not be empty.") else .ok t
  | _ => invalid (field ++ " must be a string.")

/-- A boolean field: one of YAML's booleans, `yes` and `on` among them. -/
def requireBool (field : String) : Datum → Except ConfigError Bool
  | .bool b => .ok b
  | _ => invalid (field ++ " must be true or false.")

/-- The format `input_type` names: a text field naming JSON or XML. -/
def parseInputType (d : Datum) : Except ConfigError InputFormat := do
  let name ← requireText "input_type" d
  let some format := InputFormat.ofName? name | invalid "input_type must be JSON or XML."
  pure format

def pathEntry (heap : Array Datum) (i : Nat) : Except ConfigError String :=
  match heap.getD i default with
  | .str s => .ok (Text.trim s)
  | _ => invalid "type_paths entries must be strings."

/-- The type paths of a field: a comma-separated text, or a list of texts (a byte string counts
as a list, of numbers); blank entries dropped, at least one left. -/
def requirePaths (heap : Array Datum) : Datum → Except ConfigError (List String)
  | .str s => nonEmpty (((s.splitOn ",").map Text.trim).filter (!·.isEmpty))
  | .list items => do
    let texts ← items.toList.mapM (pathEntry heap)
    nonEmpty (texts.filter (!·.isEmpty))
  | .bytes bs => if bs.isEmpty then nonEmpty [] else invalid "type_paths entries must be strings."
  | _ => invalid "type_paths must be a string or list of strings."
where
  nonEmpty (ps : List String) : Except ConfigError (List String) :=
    if ps.isEmpty then invalid "type_paths must contain at least one path." else .ok ps

def keyTexts (heap : Array Datum) (keys : List Nat) : Except ConfigError (List String) :=
  keys.mapM fun k => match (heap.getD k default).text with
    | .ok t => .ok t
    | .error m => .error (.failure "ValueError" m)

def isConfigKey : Datum → Bool
  | .str s => configKeys.contains s
  | _ => false

/-- The keys of a mapping that a configuration may not have, in the mapping's order. -/
def unknownKeys (heap : Array Datum) (entries : Array (Nat × Nat)) : List Nat :=
  entries.toList.filterMap fun (k, _) => if isConfigKey (heap.getD k default) then none else some k

/-- The document of a configuration text, loaded by a call at `depth`: a text that is not YAML of
at most one document is refused with YAML's account of why; a value that cannot be built fails
outside the checks. -/
def Configuration.loadDocument (text : String) (depth : Nat) :
    Except ConfigError (Option Loaded) :=
  match Loaded.ofText text depth with
  | .ok l => pure l
  | .error (.failure kind message) => throw (.failure kind message)
  | .error e => invalid ("Failed to parse configuration file: " ++ e.show text)

/-- The heap of a loaded document and the entries of its root mapping; no document and a null
document count as an empty mapping. -/
def Configuration.rootEntries :
    Option Loaded → Except ConfigError (Array Datum × Array (Nat × Nat))
  | none => pure (#[], #[])
  | some l => match l.heap.getD l.root default with
    | .dict entries => pure (l.heap, entries)
    | .none => pure (l.heap, #[])
    | _ => invalid "Configuration root must be a mapping."

/-- Refuses a mapping with other keys than the four, listing all of them, sorted. -/
def Configuration.checkKeys (heap : Array Datum) (entries : Array (Nat × Nat)) :
    Except ConfigError Unit := do
  let unknown ← keyTexts heap (unknownKeys heap entries)
  if !unknown.isEmpty then
    invalid ("Unknown configuration keys: " ++ ", ".intercalate (unknown.mergeSort Text.codeLE))

/-- The fields of a mapping, each read from its value or its default, in order. -/
def Configuration.readFields (heap : Array Datum) (entries : Array (Nat × Nat)) :
    Except ConfigError Configuration := do
  let format ← parseInputType ((fieldOf heap entries "input_type").getD (.str "JSON"))
  let tableName ← requireText "table_name"
    ((fieldOf heap entries "table_name").getD (.str "hive_table"))
  let skip ← requireBool "skip_keyed_response"
    ((fieldOf heap entries "skip_keyed_response").getD (.bool false))
  let paths ← match fieldOf heap entries "type_paths" with
    | some d => requirePaths heap d
    | none => pure ["Response"]
  pure ⟨format, tableName, skip, paths⟩

/-- The configuration a YAML text holds, loaded by a call at `depth`. -/
def Configuration.ofText (text : String) (depth : Nat) : Except ConfigError Configuration := do
  let loaded ← Configuration.loadDocument text depth
  let (heap, entries) ← Configuration.rootEntries loaded
  Configuration.checkKeys heap entries
  Configuration.readFields heap entries

/-- The configuration of a file of a workspace, loaded by a call at `depth`. -/
def Configuration.load (ws : Workspace) (path : String) (depth : Nat) :
    Except ConfigError Configuration := do
  let p := PathName.parse path
  match ws.lookup p with
  | .absent _ => invalid ("Configuration file not found: " ++ p.text)
  | .directory => throw (.failure FileError.isDirectory.kind (FileError.isDirectory.message p.text))
  | .file bytes =>
    match Text.decodeUtf8 bytes.data with
    | .error e => invalid ("Configuration file is not valid UTF-8: " ++ e.message)
    | .ok text => Configuration.ofText (String.ofList (universalNewlines text.toList)) depth

end HiveDdl
