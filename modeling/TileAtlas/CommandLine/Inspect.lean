/-
The description of a tileset that `inspect` prints.
-/

import TileAtlas.Document.Basic

namespace TileAtlas.CommandLine

open Wang (WangSet)

/-- The line about one color of a Wang set, at its position counted from one. -/
def colorLine (set : WangSet) (position : Nat) (c : Wang.Color) : String :=
  let index := Wang.shownIndex position
  let tile :=
    match c.tile with
    | some t => toString t.toNat
    | none => "none"
  let uniform := (set.uniformTiles (UInt8.ofNat index)).length
  s!"      {index}. {c.label index} {c.color.text} tile {tile} ({uniform} uniform)"

def wangSetLines (set : WangSet) : List String :=
  s!"    {set.name} ({set.setType.name}): {set.colors.length} colors, {set.tiles.length} tiles" ::
    set.colors.zipIdx.map (fun (c, i) => colorLine set (i + 1) c)

/-- The lines about the properties, by name in ascending order. -/
def propertyLines (properties : Properties) : List String :=
  if properties.isEmpty then []
  else
    "  properties:" ::
      properties.entries.map fun e => s!"    {e.1} ({e.2.typeName}) = {e.2.shown}"

def inspectionLines (doc : TilesetDocument) : List String :=
  let t := doc.tileset
  [doc.label,
    s!"  name: {t.name}",
    s!"  tile size: {t.tileWidth}x{t.tileHeight}",
    s!"  grid: {t.columns} columns x {t.rows} rows ({t.tileCount} tiles)"] ++
  (if t.spacing = 0 ∧ t.margin = 0 then []
  else [s!"  spacing: {t.spacing}, margin: {t.margin}"]) ++
  (match t.image with
    | some image => [s!"  image: {image.source} ({image.width}x{image.height})"]
    | none => []) ++
  propertyLines t.properties ++
  [s!"  wang sets: {doc.wangSets.length}"] ++
  doc.wangSets.flatMap wangSetLines

end TileAtlas.CommandLine
