import HiveDdl.Cli.Session
/-!
# The program

Runs a command line session on the files of the current directory: the files and directories
the arguments may name are read into a workspace, the session runs on it, and the files it
created or changed are written back. The streams are printed and the exit code returned; a
failure that runs do not report is printed as its kind and message, with exit code 1.
-/

namespace HiveDdl

def candidatePaths (args : List String) : List String :=
  let named := defaultConfigPath :: args ++ args.filterMap fun a =>
    match a.splitOn "=" with
    | _ :: v :: more => some ("=".intercalate (v :: more))
    | _ => none
  let leading (p : String) : List String :=
    let path := PathName.parse p
    if !path.root.isEmpty then [] else
    (List.range path.parts.length).map fun i => "/".intercalate (path.parts.take (i + 1))
  (named.flatMap leading).eraseDups

def loadPath (ws : Workspace) (path : String) : IO Workspace := do
  try
    let bytes ← IO.FS.readBinFile path
    pure (ws.write (PathName.parse path) bytes)
  catch e =>
    match e with
    | .inappropriateType _ 21 _ => pure (ws.addDirectory (placesOf (PathName.parse path).parts).2)
    | .otherError 21 _ => pure (ws.addDirectory (placesOf (PathName.parse path).parts).2)
    | _ => pure ws

end HiveDdl

def main (args : List String) : IO UInt32 := do
  let before ← (HiveDdl.candidatePaths args).foldlM HiveDdl.loadPath HiveDdl.Workspace.empty
  let root := (← IO.currentDir).toString
  -- the session's entry runs below the module runner's two calls and the module's own
  match HiveDdl.Cli.runSession args before root 4 with
  | .exited code out err after =>
    for (place, bytes) in after.writtenSince before do
      IO.FS.writeBinFile ("/".intercalate place) bytes
    IO.print out
    IO.eprint err
    pure code.toUInt32
  | .stopped (.generation e) =>
    IO.eprintln e.message
    pure 1
  | .stopped (.configuration kind message) =>
    IO.eprintln (kind ++ ": " ++ message)
    pure 1
  | .stopped (.unencodable message after) =>
    for (place, bytes) in after.writtenSince before do
      IO.FS.writeBinFile ("/".intercalate place) bytes
    IO.eprintln ("UnicodeEncodeError: " ++ message)
    pure 1
