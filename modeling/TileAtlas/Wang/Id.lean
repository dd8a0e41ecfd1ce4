/-
Wang ids: the colors in the eight slots around a tile.

Colors are numbered from one; zero is no color. An id is written as eight numbers with
commas between them.
-/

import TileAtlas.Ascending
import TileAtlas.Text.Numeral
import TileAtlas.Wang.Position

namespace TileAtlas.Wang

structure Id where
  slots : Vector UInt8 8
deriving DecidableEq, Repr

namespace Id

/-- The id without colors. -/
def empty : Id := ⟨Vector.replicate 8 0⟩

instance : Inhabited Id := ⟨empty⟩

def ofColors (c₀ c₁ c₂ c₃ c₄ c₅ c₆ c₇ : UInt8) : Id :=
  ⟨#v[c₀, c₁, c₂, c₃, c₄, c₅, c₆, c₇]⟩

def toList (w : Id) : List UInt8 :=
  w.slots.toList

def colorAt (w : Id) (p : Position) : UInt8 :=
  w.slots[p.index]

def set (w : Id) (p : Position) (color : UInt8) : Id :=
  ⟨w.slots.set p.index color⟩

@[simp] theorem colorAt_empty (p : Position) : empty.colorAt p = 0 := by
  simp [colorAt, empty]

@[simp] theorem colorAt_set_self (w : Id) (p : Position) (c : UInt8) :
    (w.set p c).colorAt p = c := by
  simp [colorAt, set]

/-- Setting a slot leaves the others alone. -/
theorem colorAt_set_of_ne (w : Id) {p q : Position} (c : UInt8) (hne : p ≠ q) :
    (w.set p c).colorAt q = w.colorAt q := by
  have hindex : p.index.val ≠ q.index.val := fun h =>
    hne (by rw [← Position.ofIndex_index p, Fin.ext h, Position.ofIndex_index])
  simp [colorAt, set, Vector.getElem_set_ne, hindex]

/-- One color in every slot that a set type uses. -/
def filled (t : SetType) (color : UInt8) : Id :=
  t.positions.foldl (fun w p => w.set p color) empty

/-- The colors that occur, ascending and each once. -/
def colors (w : Id) : List UInt8 :=
  Ascending.ofList (w.toList.filter (· != 0))

/-- The colors of a Wang ID are its entries, 0 left out. -/
theorem mem_colors {w : Id} {c : UInt8} : c ∈ w.colors ↔ c ≠ 0 ∧ c ∈ w.toList := by
  rw [colors, Ascending.mem_ofList, List.mem_filter, bne_iff_ne, and_comm]

def maxColor (w : Id) : UInt8 :=
  w.toList.foldl max 0

def hasColor (w : Id) (color : UInt8) : Bool :=
  color != 0 && w.toList.contains color

def isEmpty (w : Id) : Bool :=
  w.toList.all (· == 0)

/-- The one color that all slots used by a set type share. -/
def uniform? (w : Id) (t : SetType) : Option UInt8 :=
  match t.positions with
  | [] => none
  | p :: ps =>
    let first := w.colorAt p
    if first ≠ 0 ∧ ps.all (fun q => w.colorAt q == first) then some first else none

/-- The slots with a color that a set type does not use, clockwise. -/
def strayPositions (w : Id) (t : SetType) : List Position :=
  Position.all.filter (fun p => w.colorAt p != 0 && !t.uses p)

/-- Every color is on a slot the set type uses. -/
def usesOnly (w : Id) (t : SetType) : Bool :=
  (w.strayPositions t).isEmpty

def text (w : Id) : String :=
  Text.joinWith "," (w.toList.map (fun c => toString c.toNat))

/-- Why a text is no Wang id. -/
inductive ReadError where
  | wrongLength (found : Nat)
  | invalidIndex (field : String)
deriving DecidableEq, Repr

def ReadError.message : ReadError → String
  | .wrongLength n => s!"expected 8 comma-separated values, found {n}"
  | .invalidIndex f => s!"invalid color index '{f}'"

def readColor (field : String) : Except ReadError UInt8 :=
  match Text.uint8? field with
  | some c => .ok c
  | none => .error (.invalidIndex field)

/-- Read an id: eight fields between commas, each a number up to 255 with optional
white space around it. A wrong number of fields is reported before what they hold. -/
def read (s : String) : Except ReadError Id :=
  match (Text.fields ',' s).map Text.trim with
  | [c₀, c₁, c₂, c₃, c₄, c₅, c₆, c₇] => do
    return ofColors (← readColor c₀) (← readColor c₁) (← readColor c₂) (← readColor c₃)
      (← readColor c₄) (← readColor c₅) (← readColor c₆) (← readColor c₇)
  | parts => .error (.wrongLength parts.length)

end Id

end TileAtlas.Wang
