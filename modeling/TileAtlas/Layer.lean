/-
Tile layers: a grid of global tile ids, row after row.

A global tile id is zero for an empty cell. Its four highest bits hold flips and
rotations; the rest is the id proper.
-/

import TileAtlas.Text.Blank

namespace TileAtlas

/-- A global tile id without its flip and rotation bits. -/
def stripFlips (gid : UInt32) : UInt32 :=
  gid &&& 0x0FFFFFFF

inductive Role where
  | ground
  | decoration
  | collision
  | zone
  | other
deriving DecidableEq, Repr, Inhabited

/-- The role a layer's name gives it, in any case of its ASCII letters. -/
def Role.ofName (name : String) : Role :=
  match Text.lowerAscii name with
  | "ground" => .ground
  | "decoration" => .decoration
  | "collision" => .collision
  | "zone" => .zone
  | _ => .other

structure Layer where
  name : String
  visible : Bool
  role : Role
  gids : List UInt32
deriving DecidableEq, Repr, Inhabited

def cellCount (width height : UInt32) : Nat :=
  width.toNat * height.toNat

/-- A list cut or filled up to a length. -/
def resize {α : Type} (n : Nat) (fill : α) (xs : List α) : List α :=
  xs.take n ++ List.replicate (n - xs.length) fill

/-- However many gids the data gave, the layer gets one for every cell. -/
@[simp] theorem length_resize {α : Type} (n : Nat) (fill : α) (xs : List α) :
    (resize n fill xs).length = n := by
  simp only [resize, List.length_append, List.length_take, List.length_replicate]
  omega

namespace Layer

/-- A visible layer for a grid of the given size: surplus ids are cut off, missing ones
are empty cells. -/
def ofGids (name : String) (width height : UInt32) (gids : List UInt32) : Layer where
  name := name
  visible := true
  role := Role.ofName name
  gids := resize (cellCount width height) 0 gids

def gidAt? (l : Layer) (x y width : UInt32) : Option UInt32 :=
  if width ≤ x then none
  else l.gids[y.toNat * width.toNat + x.toNat]?

/-- The number of cells that are not empty. -/
def filledCount (l : Layer) : Nat :=
  l.gids.countP (· != 0)

end Layer

end TileAtlas
