/-
The program as a whole: from arguments and a file system to an exit code and output.
-/

import TileAtlas.CommandLine.Inspect
import TileAtlas.CommandLine.Validate
import TileAtlas.Json.Encode
import TileAtlas.Json.Printer

namespace TileAtlas.CommandLine

def runInspect (d : Disk) (path : Path) : Except CommandError String :=
  match d.loadTileset path with
  | .ok doc => .ok (lines (inspectionLines doc))
  | .error cause => .error (.document cause)

/-- What `export` makes: the document, the text for the output stream, and the text for
a file if one is asked for. -/
structure Export where
  document : TilesetDocument
  printed : String
  written : Option (Path × String)

def runExport (d : Disk) (path : Path) (output : Option Path) : Except CommandError Export := do
  let doc ← (d.loadTileset path).mapError .document
  let text := doc.toJson.pretty
  match output with
  | none => return ⟨doc, text ++ "\n", none⟩
  | some file =>
    match d.checkWritable file with
    | .ok () => return ⟨doc, "", some (file, text)⟩
    | .error cause => throw (.file file cause)

structure Outcome where
  exitCode : UInt8
  output : String
  errorOutput : String
  written : Option (Path × String)

namespace Outcome

def printed (passed : Bool) (output : String) : Outcome :=
  ⟨if passed then 0 else 1, output, "", none⟩

def failed (cause : CommandError) : Outcome :=
  ⟨1, "", "error: " ++ cause.message ++ "\n", none⟩

/-- A run with arguments that make no sense. -/
def misused (cause : ArgumentError) : Outcome :=
  ⟨2, "", "error: " ++ cause.message ++ "\n\n" ++ usage ++ "\n", none⟩

end Outcome

def runCommand (d : Disk) (userDir : Option Path) : Command → Outcome
  | .help => .printed true (usage ++ "\n")
  | .version => .printed true (version ++ "\n")
  | .validate args =>
    match runValidate d userDir args with
    | .ok (summary, output) => .printed summary.passed output
    | .error e => .failed e
  | .inspect path =>
    match runInspect d path with
    | .ok output => .printed true output
    | .error e => .failed e
  | .export path output =>
    match runExport d path output with
    | .ok e => ⟨0, e.printed, "", e.written⟩
    | .error e => .failed e

def run (d : Disk) (userDir : Option Path) (words : List String) : Outcome :=
  match readArguments words with
  | .ok invocation => runCommand d userDir invocation.command
  | .error e => .misused e

end TileAtlas.CommandLine
