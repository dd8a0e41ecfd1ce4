/-
Tile maps: tileset references, layers, and questions about cells.

A map numbers the tiles of all its tilesets in one range of global ids; each reference
says where its tileset's ids start. `resolve?` finds the tileset of an id. Cells are
asked for in signed coordinates, and everything outside the map is solid.
-/

import TileAtlas.Layer
import TileAtlas.Tileset

namespace TileAtlas

inductive TilesetSource where
  | external (path : Path)
  | embedded (tileset : Tileset)
deriving DecidableEq

/-- A tileset of a map and the first global id of its tiles. -/
structure TilesetRef where
  firstGid : UInt32
  source : TilesetSource
deriving DecidableEq

def TilesetRef.embedded? (r : TilesetRef) : Option Tileset :=
  match r.source with
  | .embedded t => some t
  | .external _ => none

structure TileMap where
  width : UInt32
  height : UInt32
  tileWidth : UInt32
  tileHeight : UInt32
  tilesets : List TilesetRef
  layers : List Layer
deriving DecidableEq

namespace TileMap

/-- A map without tilesets and layers. -/
def blank (width height tileWidth tileHeight : UInt32) : TileMap :=
  ⟨width, height, tileWidth, tileHeight, [], []⟩

def pixelSize (m : TileMap) : Nat × Nat :=
  (m.width.toNat * m.tileWidth.toNat, m.height.toNat * m.tileHeight.toNat)

def inBounds (m : TileMap) (x y : Int32) : Bool :=
  0 ≤ x.toInt && 0 ≤ y.toInt && x.toInt < m.width.toNat && y.toInt < m.height.toNat

/-- The better of two references for an id: the one that starts higher, and of two that
start alike the later one. -/
def later (best : Option (Nat × UInt32)) (candidate : Nat × UInt32) : Option (Nat × UInt32) :=
  match best with
  | none => some candidate
  | some b => if candidate.2 < b.2 then some b else some candidate

/-- The index of the reference that an id belongs to and the local tile id: the
reference with the greatest first id not above it. -/
def resolve? (m : TileMap) (gid : UInt32) : Option (Nat × UInt32) :=
  let g := stripFlips gid
  if g = 0 then none
  else
    let starts := m.tilesets.zipIdx.map (fun r => (r.2, r.1.firstGid))
    ((starts.filter (fun s => s.2 ≤ g)).foldl later none).map (fun s => (s.1, g - s.2))

/-- Whether a layer serves a role: a layer without a known role serves as ground. -/
def serves (role : Role) (l : Layer) : Bool :=
  l.role == role || (role == .ground && l.role == .other)

/-- The layer that serves a role. A later layer replaces an earlier one. -/
def layer? (m : TileMap) (role : Role) : Option Layer :=
  m.layers.reverse.find? (serves role)

/-- The id in a cell of the layer that serves a role. -/
def gidOf? (m : TileMap) (role : Role) (x y : Int32) : Option UInt32 :=
  if m.inBounds x y then
    (m.layer? role).bind (fun l => l.gidAt? (UInt32.ofInt x.toInt) (UInt32.ofInt y.toInt) m.width)
  else none

/-- Whether a cell blocks movement. -/
def isSolid (m : TileMap) (x y : Int32) : Bool :=
  !m.inBounds x y || (m.gidOf? .collision x y).any (fun g => stripFlips g != 0)

/-- One for a solid cell, zero for a free one. -/
def collisionAt (m : TileMap) (x y : Int32) : Nat :=
  if m.isSolid x y then 1 else 0

def zoneAt? (m : TileMap) (x y : Int32) : Option UInt32 :=
  ((m.gidOf? .zone x y).map stripFlips).filter (· != 0)

/-- The tile coordinate of a pixel coordinate: divide, round down, and move to the
nearest coordinate there is. -/
def tileCoordinate (px : Double) (size : UInt32) : Int32 :=
  Int32.ofInt
    ((px.div (Number.Binary.ofNat Number.binary64 size.toNat)).floorClamped
      Int32.minValue.toInt Int32.maxValue.toInt)

/-- Whether the cell under a pixel blocks movement. Without a tile size all is solid. -/
def isSolidAtPixel (m : TileMap) (px py : Double) : Bool :=
  if m.tileWidth = 0 ∨ m.tileHeight = 0 then true
  else m.isSolid (tileCoordinate px m.tileWidth) (tileCoordinate py m.tileHeight)

end TileMap

end TileAtlas
