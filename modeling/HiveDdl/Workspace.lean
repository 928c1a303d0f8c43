import HiveDdl.Text.Quote
/-!
# Workspaces: the files a run sees

A workspace is a directory of files and subdirectories, the one a run starts in. Paths name its
entries: a path is split at slashes, empty and `.` parts are dropped, and `..` steps up to the
parent directory. A path is written back in that normal form (`a//b/./c/` is `a/b/c`, the empty
path is `.`).

Looking a path up walks it part by part: every part but the last must be a directory. Writing
a file makes its missing parent directories. Places above the workspace are named by leading
`..` parts; the directories that hold the workspace exist, and of what they hold only what a
run writes is known.

* `PathName.parse`, `PathName.text`: paths and their normal form.
* `Workspace.lookup`: a file's bytes, a directory, or why there is neither.
* `Workspace.write`: a workspace with a file written, its directories made.
* `Workspace.openFile`, `Workspace.setFile`: where a path opens a file for writing, and the
  workspace with a file's bytes set.
* `Workspace.writeFile`: a file written where its directory exists, or why it cannot be.
* `PathName.resolvedText`: a path as an absolute path below a given workspace root.
-/

namespace HiveDdl

/-- A path: its root (`/`, `//` or none) and its parts, without empty and `.` parts. -/
structure PathName where
  root : String
  parts : List String
deriving Repr, DecidableEq

/-- A path read from its text. -/
def PathName.parse (s : String) : PathName :=
  let root := if s.startsWith "//" ∧ !s.startsWith "///" then "//"
    else if s.startsWith "/" then "/" else ""
  ⟨root, ((s.toList.splitOn '/').map String.ofList).filter fun p => p ≠ "" ∧ p ≠ "."⟩

/-- A path in normal form: its root and its parts joined by slashes; `.` when both are empty. -/
def PathName.text (p : PathName) : String :=
  let body := p.root ++ "/".intercalate p.parts
  if body.isEmpty then "." else body

/-- Why an entry cannot be read as a file. -/
inductive FileError where
  | missing
  | isDirectory
  | notDirectory
deriving Repr, DecidableEq

def FileError.message (e : FileError) (path : String) : String :=
  match e with
  | .missing => "[Errno 2] No such file or directory: " ++ Text.quoted path
  | .isDirectory => "[Errno 21] Is a directory: " ++ Text.quoted path
  | .notDirectory => "[Errno 20] Not a directory: " ++ Text.quoted path

def FileError.kind : FileError → String
  | .missing => "FileNotFoundError"
  | .isDirectory => "IsADirectoryError"
  | .notDirectory => "NotADirectoryError"

/-- What a path names. -/
inductive Lookup where
  | file (bytes : ByteArray)
  | directory
  | absent (why : FileError)

/-- The files of a workspace, by their parts, and its directories besides the ones that hold
files. -/
structure Workspace where
  files : List (List String × ByteArray)
  directories : List (List String)

def Workspace.empty : Workspace := ⟨[], []⟩

def isAncestor (place : List String) : Bool := place.all (· = "..")

/-- Whether a place is a directory: the workspace or a directory holding it, one made, or one
holding an entry. -/
def Workspace.isDirectory (ws : Workspace) (place : List String) : Bool :=
  isAncestor place || ws.directories.contains place ||
    ws.files.any (fun (f, _) => place.isPrefixOf f && f.length > place.length) ||
    ws.directories.any fun d => place.isPrefixOf d && d.length > place.length

def Workspace.fileAt (ws : Workspace) (place : List String) : Option ByteArray :=
  (ws.files.find? (·.1 == place)).map (·.2)

def parentPlace (place : List String) : List String :=
  if isAncestor place then place ++ [".."] else place.dropLast

def Workspace.walk (ws : Workspace) (here : List String) : List String → Lookup
  | [] => if ws.isDirectory here then .directory else
      match ws.fileAt here with
      | some bytes => .file bytes
      | none => .absent .missing
  | part :: rest =>
    if part = ".." then ws.walk (parentPlace here) rest
    else
      let next := here ++ [part]
      if ws.isDirectory next then ws.walk next rest
      else match ws.fileAt next with
        | some bytes => if rest.isEmpty then .file bytes else .absent .notDirectory
        | none => .absent .missing

/-- What a path names. Outside the workspace's tree only the root directory is known. -/
def Workspace.lookup (ws : Workspace) (p : PathName) : Lookup :=
  if p.root.isEmpty then ws.walk [] p.parts
  else if p.parts.isEmpty then .directory else .absent .missing

def placesOf (parts : List String) : List (List String) × List String :=
  parts.foldl (fun (passed, here) part =>
    let next := if part = ".." then parentPlace here else here ++ [part]
    (passed ++ [here], next)) ([], [])

def Workspace.addDirectory (ws : Workspace) (place : List String) : Workspace :=
  if ws.isDirectory place then ws else { ws with directories := ws.directories ++ [place] }

/-- The workspace with a file written, the directories on its way made. A path from the root
of the file system changes nothing. -/
def Workspace.write (ws : Workspace) (p : PathName) (bytes : ByteArray) : Workspace :=
  if !p.root.isEmpty then ws else
  let (passed, place) := placesOf p.parts
  let ws := passed.foldl Workspace.addDirectory ws
  if ws.isDirectory place then ws
  else { ws with files := (ws.files.filter (·.1 != place)) ++ [(place, bytes)] }

/-- Opens a file for writing at a path whose directory exists: the place of the file, or why
it cannot be opened (the directory is missing or is a file, or the path names a directory). A
path from the root of the file system reaches nothing writable. -/
def Workspace.openFile (ws : Workspace) (p : PathName) : Except FileError (List String) :=
  if !p.root.isEmpty then .error (if p.parts.isEmpty then .isDirectory else .missing) else
  match p.parts.getLast? with
  | none => .error .isDirectory
  | some _ =>
    match ws.walk [] p.parts.dropLast with
    | .directory =>
      let (_, place) := placesOf p.parts
      if ws.isDirectory place then .error .isDirectory else .ok place
    | .file _ => .error .notDirectory
    | .absent why => .error why

/-- The workspace with the file at a place holding the given bytes, made if it is missing. -/
def Workspace.setFile (ws : Workspace) (place : List String) (bytes : ByteArray) : Workspace :=
  { ws with files := (ws.files.filter (·.1 != place)) ++ [(place, bytes)] }

/-- The workspace with a file written at a path whose directory exists, or why it cannot be:
the file is opened, then holds the bytes. -/
def Workspace.writeFile (ws : Workspace) (p : PathName) (bytes : ByteArray) :
    Except FileError Workspace :=
  (ws.setFile · bytes) <$> ws.openFile p

/-- A path as an absolute path, for a workspace whose own absolute path is `root`: `..` parts
step up lexically. -/
def PathName.resolvedText (root : String) (p : PathName) : String :=
  if !p.root.isEmpty then p.text
  else String.join (root :: (placesOf p.parts).2.map ("/" ++ ·))

/-- The files of a workspace that another one does not have with the same bytes: those created
or changed, with their places. -/
def Workspace.writtenSince (after before : Workspace) : List (List String × ByteArray) :=
  after.files.filter fun (place, bytes) =>
    match before.fileAt place with
    | some old => old.data != bytes.data
    | none => true

/-- The files created or changed inside the workspace, with their paths; files reached by
stepping out of it do not count. -/
def Workspace.changedFrom (after before : Workspace) : List (String × ByteArray) :=
  (after.writtenSince before).filterMap fun (place, bytes) =>
    if isAncestor (place.take 1) ∧ !place.isEmpty then none
    else some ("/".intercalate place, bytes)

end HiveDdl
