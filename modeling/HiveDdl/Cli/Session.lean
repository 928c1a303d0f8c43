import HiveDdl.Cli.Arguments
import HiveDdl.Run
/-!
# The command line

The program `json-hive-schema` is a group of two commands:

* `generate --input PATH --output PATH [--input-type json|xml] [--table-name TEXT]
  [--skip-keyed-response] [--type-paths TEXT] [--config PATH]`: writes the statements generated
  from the input document to the output file and prints them. The configuration file, when
  named, gives the settings; the options given override them.
* `generate-config [--output PATH]`: writes a commented configuration file, where none exists,
  and prints its absolute path.

The group takes `--version`, `--verbose` (progress notes on the error stream) and `-h`/`--help`
before the command. A session ends with exit code 0 on success, 1 with the message of a failed
run, and 2 with the usage and the problem for arguments it refuses; without arguments it shows
its help and exits with 2. A failure that runs do not report stops the session.

* `runSession args ws root depth`: the outcome of a session started by a call at `depth`;
  `root` is how the workspace's absolute path is shown.
-/

namespace HiveDdl.Cli

def programName : String := "json-hive-schema"

def programVersion : String := "0.1.0"

def helpOption : OptionSpec :=
  ⟨["-h", "--help"], "help", .flag, "Show this message and exit.", false, true, none⟩

def groupOptions : List OptionSpec :=
  [⟨["--version"], "version", .flag, "Show the version and exit.", false, true, none⟩,
   ⟨["--verbose"], "verbose", .flag, "Log progress to stderr.", false, false, none⟩,
   helpOption]

def generateOptions : List OptionSpec :=
  [⟨["--input"], "input", .text "PATH", "Example JSON or XML document to build the schema from",
     true, false, none⟩,
   ⟨["--output"], "output", .text "PATH", "File to write the table and view DDL to", true, false,
     none⟩,
   ⟨["--input-type"], "input_type", .choice ["JSON", "XML"],
     "Format of the input document. Defaults to JSON.", false, false, none⟩,
   ⟨["--table-name"], "table_name", .text "TEXT",
     "Name of the generated table. Defaults to hive_table.", false, false, none⟩,
   ⟨["--skip-keyed-response"], "skip_keyed_response", .flag,
     "The document has no KeyedResponse envelope; type the bare Response.", false, false, none⟩,
   ⟨["--type-paths"], "type_paths", .text "TEXT",
     "Comma-separated paths surfaced as independent columns, e.g. 'Response' or " ++
       "'tag/object,tag/list@id:2'. Defaults to Response.", false, false, none⟩,
   ⟨["--config"], "config", .text "PATH",
     "Optional YAML run configuration; command line options take precedence", false, false, none⟩,
   helpOption]

def generateConfigOptions : List OptionSpec :=
  [⟨["--output"], "output", .text "PATH",
     "Path to the YAML run configuration template to write", false, false,
     some defaultConfigPath⟩,
   helpOption]

/-- The commands of the group. -/
inductive Command where
  | generate
  | generateConfig
deriving Repr, DecidableEq

def Command.name : Command → String
  | .generate => "generate"
  | .generateConfig => "generate-config"

def Command.ofName? (name : String) : Option Command :=
  if name = "generate" then some .generate
  else if name = "generate-config" then some .generateConfig else none

def Command.description : Command → String
  | .generate => "Write Hive DDL inferred from one example document."
  | .generateConfig => "Generate a YAML run configuration with guidance comments."

def Command.options : Command → List OptionSpec
  | .generate => generateOptions
  | .generateConfig => generateConfigOptions

def groupDescription : String :=
  "Infer Hive table and flattening view DDL from an example document."

def OptionSpec.helpRow (o : OptionSpec) : String × String :=
  let names := ", ".intercalate ((o.names.filter (!isLongName ·)) ++ (o.names.filter isLongName))
  let metavar := match o.kind with
    | .flag => ""
    | .text m => " " ++ m
    | .choice cs => " [" ++ "|".intercalate (cs.map caseFold) ++ "]"
  let extras := (o.shownDefault.map ("default: " ++ ·)).toList ++ (if o.required then ["required"] else [])
  let help := if extras.isEmpty then o.help else o.help ++ "  [" ++ "; ".intercalate extras ++ "]"
  (names ++ metavar, help)

def commandPath : Option Command → String
  | some c => programName ++ " " ++ c.name
  | none => programName

def usageLine : Option Command → String
  | some c => commandPath (some c) ++ " [OPTIONS]"
  | none => programName ++ " [OPTIONS] COMMAND [ARGS]..."

def helpText : Option Command → String
  | some c => helpPage (usageLine (some c)) c.description [("Options", c.options.map (·.helpRow))]
  | none => helpPage (usageLine none) groupDescription
      [("Options", groupOptions.map (·.helpRow)),
       ("Commands", [Command.generate, Command.generateConfig].map fun c => (c.name, c.description))]

/-- What stopped a session without an exit code. -/
inductive Stop where
  | generation (e : GenerationError)
  | configuration (kind message : String)
  /-- The statements hold a lone surrogate and cannot be written; the workspace is left with
  the output file opened and empty. -/
  | unencodable (message : String) (ws : Workspace)

/-- How a session ends: an exit code, the two streams, and the workspace after it; or stopped
by a failure that runs do not report. -/
inductive Outcome where
  | exited (code : Nat) (out err : String) (ws : Workspace)
  | stopped (s : Stop)

/-- The end of a session refusing its arguments: the usage line and a hint above the problem,
unless the problem is shown alone. -/
def refuse (ws : Workspace) (command : Option Command) (p : UsageProblem) (err : String) : Outcome :=
  let usage := if p.showsUsage then
      "Usage: " ++ usageLine command ++ "\nTry '" ++ commandPath command ++ " --help' for help.\n\n"
    else ""
  .exited 2 "" (err ++ usage ++ "Error: " ++ p.message ++ "\n") ws

def fail (ws : Workspace) (err message : String) : Outcome :=
  .exited 1 "" (err ++ message ++ "\n") ws

def valueOf (r : Reading) (key : String) : Option String := r.values.lookup key

/-- Checks the options of a reading in order; returns the checked values, or what ends the
session: help or the version shown, or a problem. -/
def checkOptions (options : List OptionSpec) (r : Reading) :
    Except (Option UsageProblem × String) (List (String × String)) :=
  (checkOrder options r.order).foldlM (fun acc o =>
    match valueOf r o.key with
    | some v =>
      if o.key = "help" then .error (none, "help")
      else if o.key = "version" then .error (none, "version")
      else match checkValue o v with
        | .ok v' => .ok (acc ++ [(o.key, v')])
        | .error p => .error (some p, "")
    | none =>
      if o.required then .error (some (.missingOption o.names), "") else .ok acc) []

/-- The settings of `generate` run as a call at `depth`: those of the configuration file (loaded
one call deeper) or the defaults, with the options given put over them. -/
def generateSettings (ws : Workspace) (values : List (String × String)) (depth : Nat) :
    Except (Option String × Stop) Settings := do
  let base ← match values.lookup "config" with
    | some path =>
      if path.isEmpty then pure Settings.default
      else match Configuration.load ws path (depth + 1) with
        | .ok c => pure c.settings
        | .error (.invalid m) => throw (some m, .configuration "" "")
        | .error (.failure kind m) => throw (none, .configuration kind m)
    | none => pure Settings.default
  let format := (values.lookup "input_type").bind InputFormat.ofName? |>.getD base.format
  let tableName := (values.lookup "table_name").getD base.tableName
  let skip := if (values.lookup "skip_keyed_response").isSome then true else base.skipEnvelope
  let paths := match values.lookup "type_paths" with
    | some t => if t.isEmpty then base.typePaths else PathSpec.ofTexts (t.splitOn ",")
    | none => base.typePaths
  pure ⟨format, tableName, skip, paths⟩

/-- Runs `generate` with checked option values, as a call at `depth`; the run is one call
deeper. -/
def runGenerate (ws : Workspace) (verbose : Bool) (values : List (String × String))
    (depth : Nat) : Outcome :=
  match generateSettings ws values depth with
  | .error (some message, _) => fail ws "" message
  | .error (none, s) => .stopped s
  | .ok s =>
    let (notes, outcome) := runGeneration ws ((values.lookup "input").getD "")
      ((values.lookup "output").getD "") s (depth + 1)
    let err := if verbose then String.join (notes.map (·.line ++ "\n")) else ""
    match outcome with
    | .written ddl ws' => .exited 0 (ddl.text ++ "\n") err ws'
    | .failed message => fail ws err message
    | .stopped e => .stopped (.generation e)
    | .unencodable m ws' => .stopped (.unencodable m ws')

def configTemplate : String :=
  "# Run configuration for json-hive-schema.\n" ++
  "# Options given on the command line override the values below.\n\n" ++
  "# Format of the example document: JSON or XML.\ninput_type: JSON\n\n" ++
  "# Name of the generated external table.\ntable_name: hive_table\n\n" ++
  "# Set to true when the document has no KeyedResponse envelope around Response.\n" ++
  "skip_keyed_response: false\n\n" ++
  "# Subtrees of the Response object surfaced as independent columns.\n" ++
  "# \"Response\" types the whole response; \"a/b\" selects a nested element;\n" ++
  "# \"a/b@key:value\" selects the first element of array a/b whose key reads value.\n" ++
  "type_paths:\n  - Response\n"

def runGenerateConfig (ws : Workspace) (root : String) (values : List (String × String)) :
    Outcome :=
  let p := PathName.parse ((values.lookup "output").getD defaultConfigPath)
  let resolved := p.resolvedText root
  match ws.lookup p with
  | .absent _ =>
    match ws.writeFile p configTemplate.toUTF8 with
    | .ok ws' => .exited 0 (resolved ++ "\n") "" ws'
    | .error e => fail ws "" (e.message p.text)
  | _ => fail ws "" ("Configuration file already exists: " ++ resolved)

def runCommand (ws : Workspace) (root : String) (verbose : Bool) (c : Command)
    (args : List String) (depth : Nat) : Outcome :=
  match readArguments c.options true args with
  | .error p => refuse ws (some c) p ""
  | .ok r =>
    match checkOptions c.options r with
    | .error (some p, _) => refuse ws (some c) p ""
    | .error (none, _) => .exited 0 (helpText (some c) ++ "\n") "" ws
    | .ok values =>
      if !r.rest.isEmpty then refuse ws (some c) (.extraArguments r.rest) ""
      else match c with
        | .generate => runGenerate ws verbose values depth
        | .generateConfig => runGenerateConfig ws root values

/-- Whether a word starts like an option: with a character that is neither a letter nor a
digit (characters beyond ASCII count as letters). -/
def startsLikeOption (word : String) : Bool :=
  match word.toList.head? with
  | some c => !(c.isAlphanum || c.toNat > 127)
  | none => false

def commandNames : List String := [Command.generate.name, Command.generateConfig.name]

/-- Reads the group's options from the arguments: the session's end if they show help or the
version or are refused, else whether progress is logged and the arguments from the command on. -/
def readGroup (ws : Workspace) (args : List String) : Except Outcome (Bool × List String) :=
  match readArguments groupOptions false args with
  | .error p => .error (refuse ws none p "")
  | .ok r =>
    match checkOptions groupOptions r with
    | .error (some p, _) => .error (refuse ws none p "")
    | .error (none, what) =>
      if what = "version" then
        .error (.exited 0 (programName ++ ", version " ++ programVersion ++ "\n") "" ws)
      else .error (.exited 0 (helpText none ++ "\n") "" ws)
    | .ok values => .ok ((values.lookup "verbose").isSome, r.rest)

/-- How many calls deeper than the session a command runs: the group's main call, its
invocation, the command's invocation, the context's, and the command's own call. -/
def commandCalls : Nat := 5

/-- A session started by a call at `depth`: the group's options, then the command and its
arguments. An unknown command name that starts like an option is read once more with what
follows it as the group's options, which may show help or the version or refuse them, before
the name is refused. -/
def runSession (args : List String) (ws : Workspace) (root : String) (depth : Nat) : Outcome :=
  if args.isEmpty then .exited 2 "" (helpText none ++ "\n") ws else
  match readGroup ws args with
  | .error o => o
  | .ok (_, []) => refuse ws none .missingCommand ""
  | .ok (verbose, name :: rest) =>
    match Command.ofName? name with
    | some c => runCommand ws root verbose c rest (depth + commandCalls)
    | none =>
      let unknown := refuse ws none
        (.noSuchCommand name (Text.closeMatches name commandNames).mergeSort) ""
      if startsLikeOption name then
        match readGroup ws (name :: rest) with
        | .error o => o
        | .ok _ => unknown
      else unknown

end HiveDdl.Cli
