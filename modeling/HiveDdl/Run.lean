import HiveDdl.Generation
import HiveDdl.Configuration
import HiveDdl.Workspace
/-!
# Generation runs over a workspace

A run reads an example document from the workspace, generates the statements, and writes them
to the output file; nothing is written unless generation succeeds. On the way it notes its
progress: the document's top-level keys, each keyed datum that is absent, each type path
projected, the number of columns, and the file written.

A failed run either reports a message (the document cannot be read, the generation fails for a
reason of the document or the paths, the output cannot be written) or stops with an error that
runs do not report: a number too long to read, an entity declaration, an exponent out of range,
statements holding a lone surrogate (the output file is opened first, so a path that cannot be
written is reported before it, and a file opened is left empty).

* `generationNotes`: the notes of a generation up to where it stops.
* `runGeneration`: a run's outcome and the workspace after it.
-/

namespace HiveDdl

/-- A progress note: where it comes from and what it says. -/
structure Note where
  source : String
  text : String
deriving Repr

def Note.line (n : Note) : String := "DEBUG " ++ n.source ++ ": " ++ n.text

def documentSource : String := "json_hive_schema.document_model.document_parsing"
def projectionSource : String := "json_hive_schema.path_projection.path_projection"
def runSource : String := "json_hive_schema.run_execution.generation_run_use_case"

def quotedList (xs : List String) : String :=
  "[" ++ ", ".intercalate (xs.map Text.quoted) ++ "]"

def pathNotes (response : Value) (xml skipEnvelope : Bool) :
    Projection → List TypePath → List Note × Option Projection
  | acc, [] => ([], some acc)
  | acc, p :: rest =>
    match addPath response xml skipEnvelope acc p with
    | .error _ => ([], none)
    | .ok next =>
      let here := if p.isWholeResponse then []
        else [⟨projectionSource, "Type path '" ++ p.expression ++ "' projected as '" ++
          p.columnName ++ "'"⟩]
      let (more, final) := pathNotes response xml skipEnvelope next rest
      (here ++ more, final)

/-- The notes of a generation run as a call at `depth`, up to where it stops: the parsed
document's keys, the absent keyed data, the projected paths, and the number of columns
projected. -/
def generationNotes (text : String) (s : Settings) (depth : Nat) : List Note :=
  match s.typePaths.parse, readDocument s.format text (depth + 1) with
  | .ok paths, .ok document =>
    let parsed : Note := ⟨documentSource, "Parsed " ++ s.format.name ++
      " document with top-level keys " ++ quotedList (document.map (·.1))⟩
    match openEnvelope document s.skipEnvelope (s.format == .xml) defaultKeyedData with
    | .error _ => [parsed]
    | .ok (response, start) =>
      let absent := if s.skipEnvelope then [] else
        match lookupField document "KeyedResponse" with
        | some (.object envelope) =>
          (defaultKeyedData.filter fun name => (lookupField envelope name).isNone).map fun name =>
            (⟨projectionSource, "Keyed response data '" ++ name ++ "' not present, skipping"⟩ : Note)
        | _ => []
      let (projected, final) := pathNotes response (s.format == .xml) s.skipEnvelope start paths
      let counted := match final with
        | some p => [(⟨runSource, "Projected " ++ toString p.columns.length ++
            " top-level columns for " ++ s.tableName⟩ : Note)]
        | none => []
      parsed :: absent ++ projected ++ counted
  | _, _ => []

def GenerationError.isReported : GenerationError → Bool
  | .paths (.path _) => true
  | .paths (.notText _) => false
  | .document (.invalid _ _) => true
  | .document _ => false
  | .projection (.index _) => false
  | .projection _ => true
  | .type _ => true

/-- How a run ends: with the statements written, with a reported message, stopped by an
error runs do not report, or stopped because the statements hold a lone surrogate, which the
output file cannot hold (the message says where). The output file is opened, and so emptied,
before the statements are encoded into it: a run stopped so leaves it empty. -/
inductive RunOutcome where
  | written (ddl : Ddl) (ws : Workspace)
  | failed (message : String)
  | stopped (e : GenerationError)
  | unencodable (message : String) (ws : Workspace)

/-- A run as a call at `depth`: reads the input, generates one call deeper, writes the output.
Returns the notes and the outcome. -/
def runGeneration (ws : Workspace) (input output : String) (s : Settings) (depth : Nat) :
    List Note × RunOutcome :=
  let inputPath := PathName.parse input
  let cannotRead (e : FileError) : List Note × RunOutcome :=
    ([], .failed ("Cannot read input document " ++ inputPath.text ++ ": " ++ e.message inputPath.text))
  match ws.lookup inputPath with
  | .absent why => cannotRead why
  | .directory => cannotRead .isDirectory
  | .file bytes =>
    match Text.decodeUtf8 bytes.data with
    | .error e => ([], .failed ("Input document " ++ inputPath.text ++ " is not valid UTF-8: " ++ e.message))
    | .ok raw =>
      let text := String.ofList (universalNewlines raw.toList)
      let notes := generationNotes text s (depth + 1)
      match generate text s (depth + 1) with
      | .error e => (notes, if e.isReported then .failed e.message else .stopped e)
      | .ok ddl =>
        let outputPath := PathName.parse output
        match ws.openFile outputPath with
        | .error e => (notes, .failed ("Cannot write output file " ++ outputPath.text ++ ": " ++
            e.message outputPath.text))
        | .ok place =>
          match Text.encodeProblem? ddl.text with
          | some problem => (notes, .unencodable problem (ws.setFile place ByteArray.empty))
          | none =>
            (notes ++ [⟨runSource, "Wrote " ++ toString ddl.columns.length ++ " columns to " ++
              outputPath.text⟩], .written ddl (ws.setFile place ddl.text.toUTF8))

end HiveDdl
