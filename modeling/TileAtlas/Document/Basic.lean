/-
What the readers produce, and why they fail.

A tileset document is a tileset with its Wang sets and the file it came from; a loaded
map is a map with one document for each of its tileset references, in the same order.
-/

import TileAtlas.Disk
import TileAtlas.TileMap
import TileAtlas.Wang.Set

namespace TileAtlas

open Wang (WangSet)

/-- A tileset with its Wang sets. The path is missing for a tileset that is written
inside a map or was not read from a file. -/
structure TilesetDocument where
  path : Option Path
  tileset : Tileset
  wangSets : List WangSet
deriving DecidableEq

namespace TilesetDocument

def baseDir? (d : TilesetDocument) : Option Path :=
  d.path.bind Path.parent?

/-- The first Wang set with a name. -/
def wangSet? (d : TilesetDocument) (name : String) : Option WangSet :=
  d.wangSets.find? (fun s => s.name == name)

/-- The name of a document in messages: its file, or else the tileset's own name. -/
def label (d : TilesetDocument) : String :=
  match d.path with
  | some p => p.text
  | none => d.tileset.name

end TilesetDocument

structure LoadedMap where
  map : TileMap
  tilesets : List TilesetDocument
deriving DecidableEq

def LoadedMap.tilesetFor? (l : LoadedMap) (gid : UInt32) : Option (TilesetDocument × UInt32) :=
  (l.map.resolve? gid).bind fun r => (l.tilesets[r.1]?).map (fun d => (d, r.2))

inductive MapLimit where
  | infinite
  | orientation (value : String)
  | tooLarge (width height : UInt32)
deriving DecidableEq, Repr

def MapLimit.message : MapLimit → String
  | .infinite => "infinite maps are not supported"
  | .orientation v => s!"{v} orientation is not supported"
  | .tooLarge w h => s!"{w}x{h} tiles is too large"

/-- Why a document cannot be read. -/
inductive ReadError where
  | file (path : Path) (cause : Disk.Error)
  | malformed
  | missingElement (element : String)
  | missingAttribute (element name : String)
  | invalidAttribute (element name value : String)
  | invalidWangId (tileId : UInt32) (cause : Wang.Id.ReadError)
  | unsupportedEncoding (layer encoding : String)
  | invalidLayerData (layer value : String)
  | unsupportedMap (limit : MapLimit)
deriving DecidableEq, Repr

def ReadError.message : ReadError → String
  | .file path cause => "Failed to read " ++ path.text ++ ": " ++ cause.message
  | .malformed => "Malformed XML: the document is not well formed"
  | .missingElement e => s!"Missing <{e}> element"
  | .missingAttribute e a => s!"<{e}> is missing required attribute '{a}'"
  | .invalidAttribute e a v => s!"<{e}> has invalid {a}=\"{v}\""
  | .invalidWangId id cause => s!"Wang tile {id} has invalid wangid: " ++ cause.message
  | .unsupportedEncoding layer e => s!"Layer '{layer}' uses unsupported data encoding '{e}'"
  | .invalidLayerData layer v => s!"Layer '{layer}' has invalid tile data '{v}'"
  | .unsupportedMap limit => "Unsupported map: " ++ limit.message

end TileAtlas
