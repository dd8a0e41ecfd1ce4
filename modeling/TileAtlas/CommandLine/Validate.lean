/-
The `validate` command.

Directories are opened into the tilesets and maps directly in them. Each file is then
read and checked; a tileset that several paths lead to is checked once. What cannot be
read is printed first, then all findings, then a summary.
-/

import TileAtlas.Check.Map
import TileAtlas.Config
import TileAtlas.CommandLine.Arguments
import TileAtlas.Document.Load

namespace TileAtlas.CommandLine

inductive CommandError where
  | document (cause : ReadError)
  | config (cause : Config.Error)
  | file (path : Path) (cause : Disk.Error)
deriving DecidableEq, Repr

def CommandError.message : CommandError → String
  | .document cause => cause.message
  | .config cause => cause.message
  | .file path cause => "Failed to access " ++ path.text ++ ": " ++ cause.message

/-- The files in a directory that can be checked, in path order. -/
def filesIn (d : Disk) (dir : Path) (names : List String) : List Path :=
  let files := (names.map fun name => dir.join ⟨name⟩).filter fun file =>
    d.isFile file && (file.hasExtension "tsx" || file.hasExtension "tmx")
  files.mergeSort fun p q => (compare p q).isLE

/-- A path that is no directory, or the files of a directory. -/
def expand (d : Disk) (path : Path) : Except CommandError (List Path) :=
  if d.isDirectory path then
    match d.list path with
    | .ok names => .ok (filesIn d path names)
    | .error cause => .error (.file path cause)
  else .ok [path]

/-- The files that a list of paths asks for. -/
def collectFiles (d : Disk) (paths : List Path) : Except CommandError (List Path) :=
  (paths.mapM (expand d)).map List.flatten

/-- The canonical places of the tilesets that were met. -/
abbrev Checked := List Path

/-- Whether a place was met before, whatever its spelling. -/
def Checked.has (checked : Checked) (place : Path) : Bool :=
  checked.any (fun q => q.same place)

/-- Check a tileset file unless it was met before. It counts as met even if it cannot be
read. -/
def checkTilesetFile (d : Disk) (options : Check.Options) (checked : Checked) (path : Path) :
    Document.Read Report × Checked :=
  let place := d.place path
  if checked.has place then (.ok .empty, checked)
  else ((d.loadTileset path).map (fun doc => Check.tileset d doc options), place :: checked)

/-- Check the tilesets of a map that were not met before. Embedded tilesets are always
checked. -/
def checkDocuments (d : Disk) (options : Check.Options) :
    Checked → List TilesetDocument → Report × Checked
  | checked, [] => (.empty, checked)
  | checked, doc :: docs =>
    let place := doc.path.map d.place
    let seen := place.any checked.has
    let (rest, after) := checkDocuments d options (if seen then checked else place.toList ++ checked) docs
    (if seen then rest else (Check.tileset d doc options).merge rest, after)

def checkMapFile (d : Disk) (options : Check.Options) (checked : Checked) (path : Path) :
    Document.Read Report × Checked :=
  match d.loadMapWithTilesets path with
  | .error e => (.error e, checked)
  | .ok loaded =>
    let (rest, after) := checkDocuments d options checked loaded.tilesets
    (.ok ((Check.map path.text loaded).merge rest), after)

def checkFile (d : Disk) (options : Check.Options) (checked : Checked) (path : Path) :
    Document.Read Report × Checked :=
  if path.hasExtension "tmx" then checkMapFile d options checked path
  else checkTilesetFile d options checked path

def checkFiles (d : Disk) (options : Check.Options) :
    Checked → List Path → List (Path × Document.Read Report)
  | _, [] => []
  | checked, path :: paths =>
    let (result, after) := checkFile d options checked path
    (path, result) :: checkFiles d options after paths

structure Summary where
  files : Nat
  errors : Nat
  warnings : Nat
  failedLoads : Nat
  passed : Bool
deriving DecidableEq, Repr

/-- The last line of the output. -/
def Summary.line (s : Summary) : String :=
  let errors := s.errors + s.failedLoads
  let verdict := if s.passed then "" else " - FAILED"
  s!"{s.files} file(s) checked: {errors} error(s), {s.warnings} warning(s){verdict}"

def allFindings (results : List (Path × Document.Read Report)) : Report :=
  ⟨results.flatMap fun r =>
    match r.2 with
    | .ok report => report.issues
    | .error _ => []⟩

/-- The lines about files that could not be read. -/
def loadFailures (results : List (Path × Document.Read Report)) : List String :=
  results.filterMap fun r =>
    match r.2 with
    | .ok _ => none
    | .error e => some ("error: " ++ r.1.text ++ ": " ++ e.message)

def summarize (denyWarnings : Bool) (results : List (Path × Document.Read Report)) : Summary :=
  let report := allFindings results
  let failed := (loadFailures results).length
  { files := results.length,
    errors := report.errors.length,
    warnings := report.warnings.length,
    failedLoads := failed,
    passed := failed == 0 && report.passes denyWarnings }

def lines (ls : List String) : String :=
  String.join (ls.map (· ++ "\n"))

/-- Check all files that the paths ask for: the outcome and what is printed. -/
def runValidate (d : Disk) (userDir : Option Path) (args : ValidateArguments) :
    Except CommandError (Summary × String) := do
  let config ← (Config.load d userDir args.config).mapError .config
  let options := config.options
  let options := { options with checkImages := options.checkImages || args.checkImages }
  let files ← collectFiles d args.paths
  let results := checkFiles d options [] files
  let summary := summarize (args.denyWarnings || config.denyWarnings) results
  let findings := (allFindings results).issues.map (·.text)
  return (summary, lines (loadFailures results ++ findings ++ [summary.line]))

end TileAtlas.CommandLine
