/-
Tilesets: an image cut into a grid of equal tiles.

The grid starts `margin` pixels from the edge and has `spacing` pixels between
neighbours. Two computations read it: `offset?` gives the pixel where a column or row
starts, `fitCount` the number of columns or rows an image has room for.
-/

import TileAtlas.Path
import TileAtlas.Property

namespace TileAtlas

structure TileData where
  className : Option String
  properties : Properties
deriving DecidableEq, Inhabited

namespace TileData

def blank : TileData := ⟨none, ∅⟩

def isEmpty (d : TileData) : Bool :=
  d.className.isNone && d.properties.isEmpty

def withProperty (d : TileData) (key : String) (value : Property) : TileData :=
  { d with properties := d.properties.insert key value }

end TileData

structure SheetImage where
  source : String
  width : UInt32
  height : UInt32
  trans : Option String
deriving DecidableEq, Repr, Inhabited

/-- The declared size is unknown when both sides are zero. -/
def SheetImage.sizeUnknown (i : SheetImage) : Bool :=
  i.width == 0 && i.height == 0

structure TileOffset where
  x : Int32
  y : Int32
deriving DecidableEq, Repr

structure Rect where
  x : UInt32
  y : UInt32
  width : UInt32
  height : UInt32
deriving DecidableEq, Repr

/-- A tileset. `columns` is zero when every tile has an image of its own. -/
structure Tileset where
  name : String
  className : String
  tileWidth : UInt32
  tileHeight : UInt32
  tileCount : UInt32
  columns : UInt32
  spacing : UInt32
  margin : UInt32
  tileOffset : Option TileOffset
  image : Option SheetImage
  properties : Properties
  tiles : Table UInt32 TileData
deriving DecidableEq, Inhabited

namespace Grid

/-- A sum, if 64 bits hold it. -/
def sum? (a b : UInt64) : Option UInt64 :=
  if a.toNat + b.toNat < UInt64.size then some (a + b) else none

/-- A product, if 64 bits hold it. -/
def product? (a b : UInt64) : Option UInt64 :=
  if a.toNat * b.toNat < UInt64.size then some (a * b) else none

/-- The pixel at which cell `index` of a row or column of cells starts, if it can be
addressed with 32 bits. It is computed with 64 bits, and nothing may wrap around there. -/
def offset? (index tile margin spacing : UInt32) : Option UInt32 := do
  let steps ← product? (tile.toUInt64 + spacing.toUInt64) index.toUInt64
  let start ← sum? steps margin.toUInt64
  if start.toNat < UInt32.size then some start.toUInt32 else none

/-- A sum that stops at the largest 32-bit number. -/
def cappedAdd (a b : UInt32) : Nat :=
  min (a.toNat + b.toNat) (UInt32.size - 1)

/-- The number of whole cells that fit along `extent` pixels. -/
def fitCount (extent tile margin spacing : UInt32) : Nat :=
  if tile = 0 then 0
  else (cappedAdd extent spacing - margin.toNat) / cappedAdd tile spacing

end Grid

namespace Tileset

/-- A tileset without tiles. -/
def empty : Tileset where
  name := ""
  className := ""
  tileWidth := 0
  tileHeight := 0
  tileCount := 0
  columns := 0
  spacing := 0
  margin := 0
  tileOffset := none
  image := none
  properties := ∅
  tiles := ∅

/-- The number of rows the tiles take up, the last one possibly not full. -/
def rows (t : Tileset) : Nat :=
  if t.columns = 0 then 0 else (t.tileCount.toNat + t.columns.toNat - 1) / t.columns.toNat

/-- Tile ids run from zero up to the tile count. -/
def containsTile (t : Tileset) (id : UInt32) : Bool :=
  id < t.tileCount

def cell? (t : Tileset) (id : UInt32) : Option (UInt32 × UInt32) :=
  if t.columns = 0 ∨ t.containsTile id = false then none
  else some (id % t.columns, id / t.columns)

/-- The rectangle of a tile in the image; `none` for an unknown tile and for a position
that 32 bits cannot hold. -/
def rect? (t : Tileset) (id : UInt32) : Option Rect := do
  let (column, row) ← t.cell? id
  let x ← Grid.offset? column t.tileWidth t.margin t.spacing
  let y ← Grid.offset? row t.tileHeight t.margin t.spacing
  return { x, y, width := t.tileWidth, height := t.tileHeight }

def columnsFor (t : Tileset) (width : UInt32) : Nat :=
  Grid.fitCount width t.tileWidth t.margin t.spacing

def rowsFor (t : Tileset) (height : UInt32) : Nat :=
  Grid.fitCount height t.tileHeight t.margin t.spacing

def imagePath? (t : Tileset) (dir : Path) : Option Path :=
  t.image.map (fun i => dir.join i.source)

/-- The places to look for the image: the tileset's directory, then each search
directory in turn. -/
def imageCandidates (t : Tileset) (dir : Path) (search : List Path) : List Path :=
  match t.image with
  | none => []
  | some i => (dir :: search).map (fun d => d.join i.source)

end Tileset

end TileAtlas
