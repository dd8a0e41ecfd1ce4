/-
The program.

This is all there is of input and output: look up the paths that the command consults
until there are no new ones, let `CommandLine.run` decide, then print and write what it
says.
-/

import TileAtlas.CommandLine.Consult

namespace TileAtlas.Program

abbrev Known := List (Path × Except Disk.Error Disk.Found)

def snapshot (known : Known) : Disk where
  find p := (known.lookup p).getD (.error .notFound)

def causeOf : IO.Error → Disk.Error
  | .inappropriateType .. => .notDirectory
  | .permissionDenied .. => .denied
  | .invalidArgument _ 36 _ => .nameTooLong
  | _ => .notFound

/-- What an action gives, or the cause why it fails. -/
def attempt {α : Type} (action : IO α) : IO (Except Disk.Error α) := do
  try return .ok (← action)
  catch e => return .error (causeOf e)

/-- Look at a path. Where something is, it is found even if it cannot be opened. Devices are
opened only if the command line names them: there may be no end to what they give. -/
def look (named : Bool) (p : Path) : IO (Except Disk.Error Disk.Found) := do
  if let some cause := Disk.refusal? p then return .error cause
  attempt do
    let place ← IO.FS.realPath p.text
    let content ← match (← place.metadata).type with
      | .dir => do
        let entries ← attempt place.readDir
        pure (.directory (entries.map fun es => es.toList.map (·.fileName)))
      | .file => .file <$> attempt (IO.FS.readBinFile place)
      | _ =>
        if named then .device <$> attempt (IO.FS.readBinFile place)
        else pure (.device (.error .denied))
    return ⟨⟨place.toString⟩, content⟩

/-- Look at all paths that a command consults. The words of the command line say which of
them it names. -/
partial def explore (words : List String) (userDir : Option Path)
    (command : CommandLine.Command) (known : Known) : IO Disk := do
  let disk := snapshot known
  let fresh := (CommandLine.consulted disk userDir command).filter
    fun p => (known.lookup p).isNone
  if fresh.isEmpty then return disk
  let found ← fresh.eraseDups.mapM fun p => do return (p, ← look (words.contains p.text) p)
  explore words userDir command (known ++ found)

def userDir : IO (Option Path) := do
  let base : Option Path :=
    match (← IO.getEnv "XDG_CONFIG_HOME").map Path.mk, (← IO.getEnv "HOME").map Path.mk with
    | some dir, home => if dir.isAbsolute then some dir else home.map (·.join ".config")
    | none, home => home.map (·.join ".config")
  return base.map (·.join "tilesmith")

/-- Write the file that a run asks for. A snapshot does not say which files may be written,
so this can still fail. -/
def write (outcome : CommandLine.Outcome) : IO CommandLine.Outcome := do
  match outcome.written with
  | none => return outcome
  | some (file, text) =>
    match ← attempt (IO.FS.writeFile file.text text) with
    | .ok () => return outcome
    | .error cause => return .failed (.file file cause)

def finish (outcome : CommandLine.Outcome) : IO UInt32 := do
  let outcome ← write outcome
  IO.print outcome.output
  IO.eprint outcome.errorOutput
  return outcome.exitCode.toUInt32

end TileAtlas.Program

open TileAtlas in
def main (words : List String) : IO UInt32 := do
  let userDir ← Program.userDir
  let disk ←
    match CommandLine.readArguments words with
    | .ok invocation => Program.explore words userDir invocation.command []
    | .error _ => pure (Program.snapshot [])
  Program.finish (CommandLine.run disk userDir words)
