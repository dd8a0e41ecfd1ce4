/-
Reading documents from text and from files.
-/

import TileAtlas.Document.MapReader
import TileAtlas.Markup.Reader

namespace TileAtlas

open Document Markup

def Document.parseElement (text : String) : Read Element :=
  match Element.parse? text with
  | some e => .ok e
  | none => .error .malformed

def parseTileset (text : String) : Read TilesetDocument :=
  (parseElement text).bind readTilesetDocument

/-- Read the text of a map file that lies in `dir`, with its embedded Wang sets. -/
def parseMapDocument (text : String) (dir : Path) : Read MapDocument :=
  (parseElement text).bind (readMapDocument dir)

def parseMap (text : String) (dir : Path) : Read TileMap :=
  (parseMapDocument text dir).map (·.map)

namespace Disk

def document (d : Disk) (path : Path) : Read String :=
  match d.readText path with
  | .ok text => .ok text
  | .error cause => .error (.file path cause)

def loadTileset (d : Disk) (path : Path) : Read TilesetDocument := do
  let text ← d.document path
  let doc ← parseTileset text
  return { doc with path := some path }

/-- Read a map file, without the tilesets it refers to. -/
def loadMap (d : Disk) (path : Path) : Read TileMap := do
  let text ← d.document path
  parseMap text path.directory

/-- The document of a tileset reference, given the Wang sets written with it. -/
def loadReference (d : Disk) (ref : TilesetRef × List Wang.WangSet) : Read TilesetDocument :=
  match ref.1.source with
  | .external path => d.loadTileset path
  | .embedded tileset => .ok ⟨none, tileset, ref.2⟩

/-- Read a map file and all tilesets it refers to. The first one that cannot be read is
the error that is reported. -/
def loadMapWithTilesets (d : Disk) (path : Path) : Read LoadedMap := do
  let text ← d.document path
  let doc ← parseMapDocument text path.directory
  let tilesets ← (doc.map.tilesets.zip doc.wangSets).mapM d.loadReference
  return ⟨doc.map, tilesets⟩

end Disk

end TileAtlas
