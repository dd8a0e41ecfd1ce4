/-
The paths a command looks at.

A snapshot may hold only part of a file system: what it does not hold counts as not
there. `consulted` lists the paths that matter to a command given the snapshot so far.
The list grows as the snapshot does, since directories, maps and tilesets name further
paths; once all of it is in the snapshot, the outcome of the command is settled.
-/

import TileAtlas.CommandLine.Run

namespace TileAtlas.CommandLine

def imagePaths (d : Disk) (search : List Path) (tileset : Path) : List Path :=
  match d.loadTileset tileset with
  | .ok doc => doc.tileset.imageCandidates (doc.baseDir?.getD ⟨""⟩) search
  | .error _ => []

def referencePaths (d : Disk) (search : List Path) (ref : TilesetRef) : List Path :=
  match ref.source with
  | .external path => path :: imagePaths d search path
  | .embedded tileset => tileset.imageCandidates ⟨""⟩ search

/-- What a file to be checked leads to. -/
def filePaths (d : Disk) (search : List Path) (file : Path) : List Path :=
  if file.hasExtension "tmx" then
    match d.loadMap file with
    | .ok map => map.tilesets.flatMap (referencePaths d search)
    | .error _ => []
  else imagePaths d search file

def entryPaths (d : Disk) (dir : Path) : List Path :=
  match d.list dir with
  | .ok names => names.map fun name => dir.join ⟨name⟩
  | .error _ => []

def configPaths (userDir given : Option Path) : List Path :=
  match given with
  | some path => [path]
  | none => Config.places userDir

def searchPaths (d : Disk) (userDir given : Option Path) : List Path :=
  match Config.load d userDir given with
  | .ok config => config.searchPaths
  | .error _ => []

def validatePaths (d : Disk) (userDir : Option Path) (args : ValidateArguments) : List Path :=
  let search := searchPaths d userDir args.config
  let files := (collectFiles d args.paths).toOption.getD []
  configPaths userDir args.config ++ args.paths ++ args.paths.flatMap (entryPaths d) ++
    files.flatMap (filePaths d search)

def consulted (d : Disk) (userDir : Option Path) : Command → List Path
  | .help => []
  | .version => []
  | .validate args => validatePaths d userDir args
  | .inspect path => [path]
  | .export path none => [path]
  | .export path (some file) => [path, file, (Disk.target file).1]

end TileAtlas.CommandLine
