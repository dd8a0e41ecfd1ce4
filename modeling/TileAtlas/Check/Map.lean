/-
Checks of a map against its tilesets: the ranges of global ids have to follow one
another, and every id in a layer has to belong to a tile.
-/

import TileAtlas.Ascending
import TileAtlas.Document.Basic
import TileAtlas.Report

namespace TileAtlas.Check

/-- The findings about the first ids, given the position of the next reference and the
greatest first id so far. -/
def firstGidIssues (label : String) : Nat → UInt32 → List TilesetRef → List Issue
  | _, _, [] => []
  | index, previous, ref :: refs =>
    (if ref.firstGid = 0 then
      [.new .invalidFirstGid label s!"tileset #{index} has firstgid 0"]
    else if ref.firstGid ≤ previous then
      [.new .invalidFirstGid label
        s!"tileset #{index} firstgid {ref.firstGid} is not above the previous {previous}"]
    else []) ++
    firstGidIssues label (index + 1) (max previous ref.firstGid) refs

def tileSizeIssues (label : String) (map : TileMap) (doc : TilesetDocument) : List Issue :=
  let t := doc.tileset
  if t.tileWidth = map.tileWidth ∧ t.tileHeight = map.tileHeight then []
  else
    [.new .tileSizeMismatch label
      s!"tileset {doc.label} has {t.tileWidth}x{t.tileHeight} tiles but the map uses {map.tileWidth}x{map.tileHeight}"]

/-- The ids in a layer without their flips, ascending and each once, empty cells left
out. -/
def gidsOf (layer : Layer) : List UInt32 :=
  Ascending.ofList ((layer.gids.map stripFlips).filter (· != 0))

def gidIssues (location : String) (l : LoadedMap) (gid : UInt32) : List Issue :=
  match l.map.resolve? gid with
  | none => [.new .unresolvedGid location s!"gid {gid} does not belong to any tileset"]
  | some (index, tile) =>
    match l.tilesets[index]? with
    | none => []
    | some doc =>
      if doc.tileset.containsTile tile then []
      else
        [.new .gidOutOfRange location
          s!"gid {gid} is tile {tile} of {doc.label}, which has {doc.tileset.tileCount} tiles"]

/-- The findings about a layer: each bad id once. -/
def layerIssues (label : String) (l : LoadedMap) (layer : Layer) : List Issue :=
  (gidsOf layer).flatMap (gidIssues s!"{label}: layer '{layer.name}'" l)

/-- Check a map against its tilesets. The label names the map in the findings. -/
def map (label : String) (l : LoadedMap) : Report :=
  ⟨firstGidIssues label 0 0 l.map.tilesets ++
    l.tilesets.flatMap (tileSizeIssues label l.map) ++
    l.map.layers.flatMap (layerIssues label l)⟩

end TileAtlas.Check
