import HiveDdl.Document
import HiveDdl.Projection
import HiveDdl.Schema.View
/-!
# Generating the statements

One run infers the table and the view from one example document: the type paths are parsed,
the document read, the columns projected, and the table statement and view query written over
the projected columns. The first step that fails decides the error, in that order; the view
never fails once the table is written.

* `Settings`: what a run is told; `PathSpec`: type paths as one text or as a list.
* `generate`: the statements and the projected column names.
-/

namespace HiveDdl

open Schema

/-- Type paths as given: one comma-separated text, or a list of entries. -/
inductive PathSpec where
  | text (s : String)
  | entries (xs : List Value)
deriving Repr

def PathSpec.parse : PathSpec → Except PathListError (List TypePath)
  | .text s => (TypePath.parseText s).mapError .path
  | .entries xs => TypePath.parseEntries xs

def PathSpec.ofTexts (xs : List String) : PathSpec :=
  .entries (xs.map Value.string)

/-- What a run is told. -/
structure Settings where
  format : InputFormat
  tableName : String
  skipEnvelope : Bool
  typePaths : PathSpec
deriving Repr

/-- The settings of a run told nothing: JSON, table `hive_table`, the keyed envelope, the whole
response. -/
def Settings.default : Settings :=
  ⟨.json, "hive_table", false, PathSpec.ofTexts ["Response"]⟩

/-- The statements of a run and the columns they hold. -/
structure Ddl where
  schema : String
  query : String
  columns : List String
deriving Repr, DecidableEq

def Ddl.text (d : Ddl) : String :=
  d.schema ++ "\n" ++ d.query

/-- Why a run fails. -/
inductive GenerationError where
  | paths (e : PathListError)
  | document (e : DocumentError)
  | projection (e : ProjectionError)
  | type (e : TypeError)
deriving Repr

def GenerationError.message : GenerationError → String
  | .paths e => e.message
  | .document e => e.message
  | .projection e => e.message
  | .type e => e.message

/-- The row format of a run: the XML SerDe for XML documents, rooted at the envelope. -/
def rowFormat (s : Settings) (properties : List XPathProperty) : RowFormat :=
  match s.format with
  | .json => .json
  | .xml => .xml properties (if s.skipEnvelope then "Response" else "KeyedResponse")

/-- Runs the generation over a document text, as a call at `depth`: the document is read one
call deeper. -/
def generate (text : String) (s : Settings) (depth : Nat) : Except GenerationError Ddl := do
  let paths ← s.typePaths.parse.mapError .paths
  let document ← (readDocument s.format text (depth + 1)).mapError .document
  let projection ← (project document paths (s.format == .xml) s.skipEnvelope
    defaultKeyedData).mapError .projection
  let schema ← (tableStatement projection.columns s.tableName
    (rowFormat s projection.properties)).mapError .type
  pure ⟨schema, viewQuery projection.columns s.tableName, projection.columns.map (·.1)⟩

end HiveDdl
