/-
How many cells of a map are solid, and what the filled count of a layer says of it.

The cells of a grid are numbered row after row, each number belonging to one cell
(`eq_of_cellNumber_eq`, `exists_cellNumber_eq`), so the cells in which a layer has an id
that passes a test are as many as the ids that pass it (`TileMap.ncard_cells`). A cell is
solid if the id there is not zero without its flips, while the filled count takes every id
that is not zero. The two differ by the ids that are flips and nothing else.
-/

import Mathlib.Data.Set.Card
import Mathlib.Order.Interval.Finset.Nat
import TileAtlas.Proofs.CellQueries

namespace TileAtlas

/-! ### Places in a list -/

def placesOf {α : Type} (p : α → Bool) (xs : List α) : Set Nat :=
  {i | ∃ x, xs[i]? = some x ∧ p x = true}

theorem finite_placesOf {α : Type} (p : α → Bool) (xs : List α) : (placesOf p xs).Finite := by
  refine (Set.finite_Iio xs.length).subset ?_
  rintro i ⟨x, hx, -⟩
  exact (List.getElem?_eq_some_iff.mp hx).1

/-- One more element at the end adds its own place at most. -/
theorem mem_placesOf_append_singleton {α : Type} {p : α → Bool} {xs : List α} {x : α} {i : Nat} :
    i ∈ placesOf p (xs ++ [x]) ↔ i ∈ placesOf p xs ∨ i = xs.length ∧ p x = true := by
  rcases Nat.lt_trichotomy i xs.length with hlt | rfl | hgt
  · simp [placesOf, List.getElem?_append_left hlt, Nat.ne_of_lt hlt]
  · simp [placesOf]
  · simp [placesOf, List.getElem?_eq_none (Nat.le_of_lt hgt), Nat.ne_of_gt hgt,
      List.getElem?_append_right (Nat.le_of_lt hgt), Nat.sub_ne_zero_of_lt hgt]

/-- There are as many places as members that pass. -/
theorem ncard_placesOf {α : Type} (p : α → Bool) (xs : List α) :
    (placesOf p xs).ncard = xs.countP p := by
  induction xs using List.reverseRecOn with
  | nil => simp [placesOf]
  | append_singleton xs x ih =>
      rw [List.countP_append, ← ih]
      by_cases hx : p x = true
      · have hplaces : placesOf p (xs ++ [x]) = insert xs.length (placesOf p xs) := by
          ext i
          rw [mem_placesOf_append_singleton, Set.mem_insert_iff, or_comm]
          simp [hx]
        have hnew : xs.length ∉ placesOf p xs := by simp [placesOf]
        rw [hplaces, Set.ncard_insert_of_notMem hnew (finite_placesOf p xs)]
        simp [hx]
      · have hplaces : placesOf p (xs ++ [x]) = placesOf p xs := by
          ext i
          simp [mem_placesOf_append_singleton, hx]
        rw [hplaces]
        simp [hx]

/-! ### Cells and their numbers -/

/-- The number of a cell on a grid of some width, counted row after row. -/
def cellNumber (width : UInt32) (c : Int32 × Int32) : Nat :=
  c.2.toInt.toNat * width.toNat + c.1.toInt.toNat

section CellNumbers

variable {width height : UInt32} {c c' : Int32 × Int32}

/-- The remainder of the number is the column, and the quotient the row. -/
theorem cellNumber_mod_div (h : OnGrid width height c.1 c.2) :
    cellNumber width c % width.toNat = c.1.toInt.toNat ∧
      cellNumber width c / width.toNat = c.2.toInt.toNat := by
  obtain ⟨hx, -, hwidth, -⟩ := h
  have hlt : c.1.toInt.toNat < width.toNat := by omega
  rw [cellNumber, Nat.add_comm]
  refine ⟨?_, ?_⟩
  · rw [Nat.add_mul_mod_self_right, Nat.mod_eq_of_lt hlt]
  · rw [Nat.add_mul_div_right _ _ (Nat.zero_lt_of_lt hlt), Nat.div_eq_of_lt hlt, Nat.zero_add]

/-- Cells on the grid are told apart by their number, row by row. -/
theorem eq_of_cellNumber_eq (h : OnGrid width height c.1 c.2) (h' : OnGrid width height c'.1 c'.2)
    (heq : cellNumber width c = cellNumber width c') : c = c' := by
  obtain ⟨hcolumn, hrow⟩ := cellNumber_mod_div h
  obtain ⟨hcolumn', hrow'⟩ := cellNumber_mod_div h'
  rw [heq] at hcolumn hrow
  obtain ⟨hx, hy, -, -⟩ := h
  obtain ⟨hx', hy', -, -⟩ := h'
  exact Prod.ext (Int32.toInt_inj.mp (by omega)) (Int32.toInt_inj.mp (by omega))

/-- On a grid whose sides are coordinates, every number below the cell count is that of a
cell. -/
theorem exists_cellNumber_eq (hwidth : width.toNat < 2 ^ 31) (hheight : height.toNat < 2 ^ 31)
    {i : Nat} (hi : i < cellCount width height) :
    ∃ c : Int32 × Int32, OnGrid width height c.1 c.2 ∧ cellNumber width c = i := by
  have hpos : 0 < width.toNat := Nat.pos_of_mul_pos_right (Nat.zero_lt_of_lt hi)
  have hcolumn : i % width.toNat < width.toNat := Nat.mod_lt i hpos
  have hrow : i / width.toNat < height.toNat := Nat.div_lt_of_lt_mul hi
  have hx : (Int32.ofNat (i % width.toNat)).toInt = ↑(i % width.toNat) :=
    Int32.toInt_ofNat_of_lt (by omega)
  have hy : (Int32.ofNat (i / width.toNat)).toInt = ↑(i / width.toNat) :=
    Int32.toInt_ofNat_of_lt (by omega)
  refine ⟨(Int32.ofNat (i % width.toNat), Int32.ofNat (i / width.toNat)), ?_, ?_⟩
  · refine ⟨?_, ?_, ?_, ?_⟩
    · exact hx ▸ Int.natCast_nonneg _
    · exact hy ▸ Int.natCast_nonneg _
    · exact hx ▸ Int.ofNat_lt.mpr hcolumn
    · exact hy ▸ Int.ofNat_lt.mpr hrow
  · simp only [cellNumber, hx, hy, Int.toNat_natCast]
    rw [Nat.add_comm, Nat.mul_comm, Nat.mod_add_div]

end CellNumbers

/-! ### Cells of a layer -/

/-- The last layer of a role. -/
def LastOfRole (role : Role) (layers : List Layer) (l : Layer) : Prop :=
  ∃ before after, layers = before ++ l :: after ∧ l.role = role ∧ ∀ k ∈ after, k.role ≠ role

namespace TileMap

variable {m : TileMap} {role : Role} {l : Layer} {x y : Int32}

/-- Any role but that of the ground is served by its last layer. -/
theorem layer?_eq_some_iff (hrole : role ≠ .ground) :
    m.layer? role = some l ↔ LastOfRole role m.layers l := by
  have hserves : ∀ k : Layer, serves role k = true ↔ k.role = role := by
    intro k
    simp [serves, hrole]
  simp only [layer?, find?_reverse_eq_some_iff_append, hserves]
  rfl

/-- The id in a cell is the one with the number of the cell. -/
theorem gidOf?_of_layer? (hl : m.layer? role = some l) (h : OnGrid m.width m.height x y) :
    m.gidOf? role x y = l.gids[cellNumber m.width (x, y)]? := by
  have hcolumn : ¬ m.width ≤ UInt32.ofInt x.toInt := by
    rw [UInt32.le_iff_toNat_le, toNat_ofInt_toInt h.1]
    obtain ⟨hx, -, hwidth, -⟩ := h
    omega
  rw [gidOf?, if_pos (inBounds_iff.mpr h), hl, Option.bind_some, Layer.gidAt?, if_neg hcolumn,
    toNat_ofInt_toInt h.1, toNat_ofInt_toInt h.2.1]
  rfl

theorem onGrid_of_gidOf? {gid : UInt32} (h : m.gidOf? role x y = some gid) :
    OnGrid m.width m.height x y := by
  unfold gidOf? at h
  split at h
  · rename_i hin
    exact inBounds_iff.mp hin
  · cases h

/-- **Cells are counted by their ids.** The cells in which the layer of a role has an id that
passes a test are as many as its ids that pass. -/
theorem ncard_cells (hl : m.layer? role = some l)
    (hlength : l.gids.length = cellCount m.width m.height) (hwidth : m.width.toNat < 2 ^ 31)
    (hheight : m.height.toNat < 2 ^ 31) (p : UInt32 → Bool) :
    {c : Int32 × Int32 | ∃ gid, m.gidOf? role c.1 c.2 = some gid ∧ p gid = true}.ncard =
      l.gids.countP p := by
  rw [← ncard_placesOf]
  refine Set.ncard_congr (fun c _ => cellNumber m.width c) ?_ ?_ ?_
  · rintro c ⟨gid, hgid, hp⟩
    rw [gidOf?_of_layer? hl (onGrid_of_gidOf? hgid)] at hgid
    exact ⟨gid, hgid, hp⟩
  · rintro c c' ⟨gid, hgid, -⟩ ⟨gid', hgid', -⟩ heq
    exact eq_of_cellNumber_eq (onGrid_of_gidOf? hgid) (onGrid_of_gidOf? hgid') heq
  · rintro i ⟨gid, hgid, hp⟩
    have hi : i < cellCount m.width m.height := hlength ▸ (List.getElem?_eq_some_iff.mp hgid).1
    obtain ⟨c, hgrid, rfl⟩ := exists_cellNumber_eq hwidth hheight hi
    exact ⟨c, ⟨gid, (gidOf?_of_layer? hl hgrid).trans hgid, hp⟩, rfl⟩

def solidCells (m : TileMap) : Set (Int32 × Int32) :=
  {c | m.inBounds c.1 c.2 = true ∧ m.isSolid c.1 c.2 = true}

/-- A cell is solid if the collision layer holds more there than flip bits. -/
theorem solidCells_eq (m : TileMap) :
    m.solidCells = {c | ∃ gid, m.gidOf? .collision c.1 c.2 = some gid ∧
      (stripFlips gid != 0) = true} := by
  ext c
  constructor
  · rintro ⟨hin, hsolid⟩
    rw [isSolid, hin] at hsolid
    exact (Option.any_eq_true ..).mp hsolid
  · rintro ⟨gid, hgid, hid⟩
    have hin := inBounds_iff.mpr (onGrid_of_gidOf? hgid)
    refine ⟨hin, ?_⟩
    rw [isSolid, hgid, Option.any_some, hid, Bool.or_true]

end TileMap

/-! ### Filled and solid -/

def isBareFlip (gid : UInt32) : Bool :=
  gid != 0 && stripFlips gid == 0

/-- The filled count takes the ids that are left without their flips, and the bare flips. -/
theorem Layer.filledCount_eq (l : Layer) :
    l.filledCount = l.gids.countP (fun gid => stripFlips gid != 0) + l.gids.countP isBareFlip := by
  unfold filledCount
  induction l.gids with
  | nil => rfl
  | cons gid gids ih =>
      rw [List.countP_cons, List.countP_cons, List.countP_cons, ih]
      by_cases hstrip : stripFlips gid = 0
      · simp only [isBareFlip, hstrip, bne_self_eq_false, beq_self_eq_true, Bool.and_true,
          Bool.false_eq_true, if_false]
        omega
      · have hgid : gid ≠ 0 := by
          rintro rfl
          exact hstrip rfl
        simp only [isBareFlip, bne_iff_ne, ne_eq, hgid, hstrip, not_false_eq_true, if_true,
          Bool.and_eq_true, beq_iff_eq, and_false, if_false]
        omega

namespace TileMap

variable {m : TileMap} {l : Layer}

/-- The filled count of the layer that decides what is solid: the solid cells, and the cells
that hold a bare flip. -/
theorem filledCount_eq_ncard_add (hlast : LastOfRole .collision m.layers l)
    (hlength : l.gids.length = cellCount m.width m.height) (hwidth : m.width.toNat < 2 ^ 31)
    (hheight : m.height.toNat < 2 ^ 31) :
    l.filledCount = m.solidCells.ncard + l.gids.countP isBareFlip := by
  have hl : m.layer? .collision = some l := (layer?_eq_some_iff (by decide)).mpr hlast
  rw [l.filledCount_eq, solidCells_eq, ncard_cells hl hlength hwidth hheight]

/-- **The filled count against the solid cells.** Take a map whose sides are coordinates, and
its last collision layer, made for its size from any list of ids. The filled count of the
layer is the number of solid cells of the map and of cells with a bare flip. So the two
numbers agree exactly if every id in the layer that is zero without its flips has none. -/
theorem filledCount_eq_solid_add_bareFlips {name : String} {gids : List UInt32} {visible : Bool}
    (hmade : l = { Layer.ofGids name m.width m.height gids with visible })
    (hlast : LastOfRole .collision m.layers l) (hwidth : m.width.toNat ≤ 2 ^ 31 - 1)
    (hheight : m.height.toNat ≤ 2 ^ 31 - 1) :
    l.filledCount = m.solidCells.ncard + l.gids.countP isBareFlip ∧
      (l.filledCount = m.solidCells.ncard ↔ ∀ gid ∈ l.gids, stripFlips gid = 0 → gid = 0) := by
  have hlength : l.gids.length = cellCount m.width m.height := by
    rw [hmade]
    exact length_resize _ _ _
  have hcount := filledCount_eq_ncard_add hlast hlength (by omega) (by omega)
  refine ⟨hcount, ?_⟩
  rw [hcount, Nat.add_eq_left, List.countP_eq_zero]
  simp [isBareFlip, not_imp_not]

/-- A layer of four cells, of which two have a tile and one a bare flip. -/
def thicketLayer : Layer :=
  .ofGids "Collision" 2 2 [7, 0x40000001, 0x80000000]

def thicket : TileMap :=
  { TileMap.blank 2 2 32 32 with layers := [.ofGids "collision" 2 2 [9], thicketLayer] }

/-- Three ids count as filled, and two cells are solid. -/
theorem thicket_filledCount :
    LastOfRole .collision thicket.layers thicketLayer ∧ thicketLayer.filledCount = 3 ∧
      thicket.solidCells.ncard = 2 := by
  have hlast : LastOfRole .collision thicket.layers thicketLayer :=
    ⟨[_], [], rfl, by decide +kernel, by simp⟩
  have hfilled : thicketLayer.filledCount = 3 := by decide
  have hbare : thicketLayer.gids.countP isBareFlip = 1 := by decide
  have hmade : thicketLayer = { Layer.ofGids "Collision" thicket.width thicket.height
      [7, 0x40000001, 0x80000000] with visible := true } := rfl
  obtain ⟨hcount, -⟩ := filledCount_eq_solid_add_bareFlips hmade hlast (by decide) (by decide)
  exact ⟨hlast, hfilled, by omega⟩

def latchLayer : Layer :=
  .ofGids "Collision" 2 1 [0x80000000, 0x40000001]

def latch : TileMap :=
  { TileMap.blank 2 1 32 32 with layers := [latchLayer] }

/-- Both ids count as filled, and one cell is solid. -/
theorem latch_filled_not_solid :
    LastOfRole .collision latch.layers latchLayer ∧ latchLayer.filledCount = 2 ∧
      latch.solidCells.ncard = 1 := by
  have hlast : LastOfRole .collision latch.layers latchLayer :=
    ⟨[], [], rfl, by decide +kernel, by simp⟩
  have hfilled : latchLayer.filledCount = 2 := by decide
  have hbare : latchLayer.gids.countP isBareFlip = 1 := by decide
  have hcount := filledCount_eq_ncard_add hlast rfl (by decide) (by decide)
  exact ⟨hlast, hfilled, by omega⟩

end TileMap

end TileAtlas
