/-
The settings file.

Settings are in the table `validate`; whatever is missing has its default, and other
keys are ignored. Search directories that are not absolute start from the directory of
the file. Without a file named on the command line, the first of two places counts: the
working directory, then the user's configuration directory.
-/

import TileAtlas.Check.Tileset
import TileAtlas.Toml.Reader

namespace TileAtlas

structure Config where
  denyWarnings : Bool
  checkImages : Bool
  searchPaths : List Path
deriving DecidableEq, Repr

namespace Config

def default : Config := ⟨false, false, []⟩

def fileName : String := "tilesmith.toml"

/-- Why the settings cannot be used. -/
inductive Error where
  | file (path : Path) (cause : Disk.Error)
  | invalid (path : Path)
deriving DecidableEq, Repr

def Error.message : Error → String
  | .file path cause => "Failed to read config " ++ path.text ++ ": " ++ cause.message
  | .invalid path => "Invalid config " ++ path.text ++ ": not a valid settings file"

def flag? : Toml → Option Bool
  | .flag b => some b
  | _ => none

def path? : Toml → Option Path
  | .text s => some ⟨s⟩
  | _ => none

def paths? : Toml → Option (List Path)
  | .list items => items.mapM path?
  | _ => none

/-- The settings of a table's fields, each of which may be missing. -/
def ofFields? (field : Nat → String → Option Toml) : Option Config := do
  let read {α : Type} (i : Nat) (name : String) (missing : α) (read? : Toml → Option α) : Option α :=
    match field i name with
    | some v => read? v
    | none => some missing
  let denyWarnings ← read 0 "deny_warnings" false flag?
  let checkImages ← read 1 "check_images" false flag?
  let searchPaths ← read 2 "search_paths" [] paths?
  return ⟨denyWarnings, checkImages, searchPaths⟩

/-- The settings of a document. The table may also be given as a list of its fields in
order; a date in its place sets nothing. -/
def ofToml? (document : Toml.Entries) : Option Config :=
  match document.lookup "validate" with
  | none => some default
  | some (.table _ entries) => ofFields? fun _ name => entries.lookup name
  | some (.list items) => ofFields? fun i _ => items[i]?
  | some .moment => some default
  | some _ => none

def below (c : Config) (dir : Path) : Config :=
  { c with searchPaths := c.searchPaths.map dir.join }

def parse (text : String) (path : Path) : Except Error Config :=
  match (Toml.parse? text).bind ofToml? with
  | some c => .ok (c.below path.directory)
  | none => .error (.invalid path)

def loadFile (d : Disk) (path : Path) : Except Error Config :=
  match d.readText path with
  | .ok text => parse text path
  | .error cause => .error (.file path cause)

/-- The places of the settings file that are tried when none is given. -/
def places (userDir : Option Path) : List Path :=
  ⟨fileName⟩ :: (userDir.map fun dir => dir.join ⟨fileName⟩).toList

/-- Read the settings: from the file that is given, which has to be there, or else from
the first place that has one. -/
def load (d : Disk) (userDir given : Option Path) : Except Error Config :=
  match given with
  | some path => loadFile d path
  | none =>
    match (places userDir).find? d.isFile with
    | some path => loadFile d path
    | none => .ok default

def options (c : Config) : Check.Options :=
  ⟨c.checkImages, c.searchPaths⟩

end Config

end TileAtlas
