/-
The eight slots around a tile.

Slots are numbered clockwise from the top:

    7 0 1
    6   2
    5 4 3

Even slots are edges, odd slots are corners. A Wang set matches tiles by their
corners, by their edges, or by both.
-/

namespace TileAtlas.Wang

inductive Position where
  | top
  | topRight
  | right
  | bottomRight
  | bottom
  | bottomLeft
  | left
  | topLeft
deriving DecidableEq, Repr

namespace Position

def all : List Position :=
  [.top, .topRight, .right, .bottomRight, .bottom, .bottomLeft, .left, .topLeft]

def edges : List Position := [.top, .right, .bottom, .left]

def corners : List Position := [.topRight, .bottomRight, .bottomLeft, .topLeft]

def index : Position → Fin 8
  | .top => 0
  | .topRight => 1
  | .right => 2
  | .bottomRight => 3
  | .bottom => 4
  | .bottomLeft => 5
  | .left => 6
  | .topLeft => 7

def ofIndex (i : Fin 8) : Position :=
  match i with
  | 0 => .top
  | 1 => .topRight
  | 2 => .right
  | 3 => .bottomRight
  | 4 => .bottom
  | 5 => .bottomLeft
  | 6 => .left
  | 7 => .topLeft

@[simp] theorem index_ofIndex (i : Fin 8) : (ofIndex i).index = i := by
  revert i; decide

@[simp] theorem ofIndex_index (p : Position) : ofIndex p.index = p := by
  cases p <;> rfl

/-- The slot with a number, if there is one. -/
def ofIndex? (n : Nat) : Option Position :=
  if h : n < 8 then some (ofIndex ⟨n, h⟩) else none

def isCorner (p : Position) : Bool :=
  p.index.val % 2 == 1

/-- The slot reached by going on clockwise by `steps`. -/
def turn (p : Position) (steps : Fin 8) : Position :=
  ofIndex (p.index + steps)

/-- The slot of the neighbouring tile that faces this one. -/
def opposite (p : Position) : Position := p.turn 4

def next (p : Position) : Position := p.turn 1

def prev (p : Position) : Position := p.turn 7

@[simp] theorem opposite_opposite (p : Position) : p.opposite.opposite = p := by
  cases p <;> rfl

@[simp] theorem prev_next (p : Position) : p.next.prev = p := by
  cases p <;> rfl

@[simp] theorem next_prev (p : Position) : p.prev.next = p := by
  cases p <;> rfl

def name : Position → String
  | .top => "top"
  | .topRight => "top-right"
  | .right => "right"
  | .bottomRight => "bottom-right"
  | .bottom => "bottom"
  | .bottomLeft => "bottom-left"
  | .left => "left"
  | .topLeft => "top-left"

end Position

/-- Which slots a Wang set matches. -/
inductive SetType where
  | corner
  | edge
  | mixed
deriving DecidableEq, Repr, Inhabited

namespace SetType

def positions : SetType → List Position
  | .corner => Position.corners
  | .edge => Position.edges
  | .mixed => Position.all

def uses : SetType → Position → Bool
  | .corner, p => p.isCorner
  | .edge, p => !p.isCorner
  | .mixed, _ => true

/-- A type uses the slots it lists. -/
theorem mem_positions_iff (t : SetType) (p : Position) : p ∈ t.positions ↔ t.uses p = true := by
  cases t <;> cases p <;> decide

def name : SetType → String
  | .corner => "corner"
  | .edge => "edge"
  | .mixed => "mixed"

/-- Read a type by its name, which is taken literally. -/
def read? : String → Option SetType
  | "corner" => some .corner
  | "edge" => some .edge
  | "mixed" => some .mixed
  | _ => none

@[simp] theorem read?_name (t : SetType) : read? t.name = some t := by
  cases t <;> rfl

/-- What is said of a type name that is none of the three. -/
def unknownMessage (s : String) : String :=
  s!"unknown wang set type '{s}'"

end SetType

end TileAtlas.Wang
