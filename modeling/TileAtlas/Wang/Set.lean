/-
Wang sets: the colors of a terrain and the tiles that carry them.

Wang ids refer to colors by their position, counted from one. Only the first 255
colors have an index an id can hold; a set may declare more.
-/

import TileAtlas.Wang.Color
import TileAtlas.Wang.Id

namespace TileAtlas.Wang

structure Tile where
  tileId : UInt32
  wangId : Id
deriving DecidableEq, Repr

structure WangSet where
  name : String
  setType : SetType
  tile : Option UInt32
  colors : List Color
  tiles : List Tile
deriving DecidableEq

/-- The color index of a position counted from one, if an id can hold it. -/
def colorIndex? (n : Nat) : Option UInt8 :=
  if n < 256 then some (UInt8.ofNat n) else none

/-- The number shown for a position counted from one: it stops at 255. -/
def shownIndex (n : Nat) : Nat := min n 255

namespace WangSet

/-- A set without colors and tiles. -/
def blank (name : String) (setType : SetType) : WangSet :=
  ⟨name, setType, none, [], []⟩

def addColor (s : WangSet) (c : Color) : WangSet × Option UInt8 :=
  let colors := s.colors ++ [c]
  ({ s with colors := colors }, colorIndex? colors.length)

def addTile (s : WangSet) (tileId : UInt32) (wangId : Id) : WangSet :=
  { s with tiles := s.tiles ++ [⟨tileId, wangId⟩] }

/-- The color with an index. Index zero is no color. -/
def color? (s : WangSet) (index : UInt8) : Option Color :=
  if index = 0 then none else s.colors[index.toNat - 1]?

/-- The index of the first color with a name. -/
def indexOf? (s : WangSet) (name : String) : Option UInt8 :=
  (s.colors.findIdx? (fun c => c.name == name)).bind (fun i => colorIndex? (i + 1))

/-- The Wang id of a tile; the first entry for it counts. -/
def wangIdOf? (s : WangSet) (tileId : UInt32) : Option Id :=
  (s.tiles.find? (fun t => t.tileId == tileId)).map (·.wangId)

def tilesWithColor (s : WangSet) (color : UInt8) : List UInt32 :=
  (s.tiles.filter (fun t => t.wangId.hasColor color)).map (·.tileId)

/-- The tiles that show one color in all slots the set uses. -/
def uniformTiles (s : WangSet) (color : UInt8) : List UInt32 :=
  (s.tiles.filter (fun t => t.wangId.uniform? s.setType == some color)).map (·.tileId)

/-- The colors some tile carries, ascending and each once. -/
def usedColors (s : WangSet) : List UInt8 :=
  Ascending.ofList (s.tiles.flatMap (fun t => t.wangId.colors))

/-- A color is in use if some tile of the set bears it. -/
theorem mem_usedColors {s : WangSet} {c : UInt8} :
    c ∈ s.usedColors ↔ c ≠ 0 ∧ ∃ t ∈ s.tiles, c ∈ t.wangId.toList := by
  simp only [usedColors, Ascending.mem_ofList, List.mem_flatMap, Id.mem_colors]
  constructor
  · rintro ⟨t, ht, hne, hc⟩
    exact ⟨hne, t, ht, hc⟩
  · rintro ⟨hne, t, ht, hc⟩
    exact ⟨t, ht, hne, hc⟩

/-- The indices of declared colors that no tile carries, ascending. -/
def unusedColors (s : WangSet) : List UInt8 :=
  let used := s.usedColors
  let indices := (List.range (min s.colors.length 255)).map (fun i => UInt8.ofNat (i + 1))
  indices.filter (fun c => !used.contains c)

end WangSet

end TileAtlas.Wang
