/-
The places of tiles: the cell of a tile in the grid, its rectangle in the image, and when
the whole grid has room in the image.

Tiles fill the grid row by row, so a cell gives back its tile (`Tileset.eq_of_cell?`). The
rectangle of a tile starts where exact arithmetic says (`Tileset.left`, `Tileset.top`) or
does not exist (`Tileset.rect?_eq_some_iff`, `Tileset.rect?_eq_none_iff`), and two tiles
lie a whole step apart along one of the sides, which keeps their pixels apart.

The check of the grid compares the number of tiles with the places for them. Since a row
that is not full still takes up a row, that is a comparison of rows
(`Tileset.rows_le_iff`).
-/

import TileAtlas.Proofs.Grid

namespace TileAtlas

/-- The pixel in column `x` and line `y` belongs to the rectangle. -/
def Rect.Covers (r : Rect) (x y : Nat) : Prop :=
  (r.x.toNat ≤ x ∧ x < r.x.toNat + r.width.toNat) ∧
    r.y.toNat ≤ y ∧ y < r.y.toNat + r.height.toNat

namespace Grid

variable {i j tile margin spacing o p : UInt32}

/-- A later cell starts behind the end of an earlier one. -/
theorem offset_add_tile_le (hlt : i.toNat < j.toNat)
    (ho : offset? i tile margin spacing = some o) (hp : offset? j tile margin spacing = some p) :
    o.toNat + tile.toNat ≤ p.toNat := by
  rw [offset?_eq_some_iff] at ho hp
  have hstep : (tile.toNat + spacing.toNat) * (i.toNat + 1) ≤
      (tile.toNat + spacing.toNat) * j.toNat :=
    Nat.mul_le_mul_left _ hlt
  rw [Nat.mul_succ] at hstep
  omega

/-- Along one side, different cells have no pixel in common. -/
theorem eq_of_offset_of_mem {x : Nat}
    (ho : offset? i tile margin spacing = some o) (hp : offset? j tile margin spacing = some p)
    (hxo : o.toNat ≤ x ∧ x < o.toNat + tile.toNat)
    (hxp : p.toNat ≤ x ∧ x < p.toNat + tile.toNat) : i = j := by
  rcases Nat.lt_trichotomy i.toNat j.toNat with hlt | heq | hgt
  · have hend := offset_add_tile_le hlt ho hp
    omega
  · exact UInt32.toNat_inj.mp heq
  · have hend := offset_add_tile_le hgt hp ho
    omega

end Grid

namespace Tileset

variable {t : Tileset} {id column row : UInt32}

/-! ### Cells -/

/-- A tile in range has a cell if the tileset has columns. -/
theorem cell?_eq_some_iff :
    t.cell? id = some (column, row) ↔
      t.columns ≠ 0 ∧ id < t.tileCount ∧ id % t.columns = column ∧ id / t.columns = row := by
  simp [cell?, containsTile, and_assoc]

/-- A cell holds one tile only. -/
theorem eq_of_cell? {other : UInt32} (h : t.cell? id = some (column, row))
    (hother : t.cell? other = some (column, row)) : other = id := by
  obtain ⟨-, -, hcolumn, hrow⟩ := cell?_eq_some_iff.mp h
  obtain ⟨-, -, hcolumn', hrow'⟩ := cell?_eq_some_iff.mp hother
  have hmod : other.toNat % t.columns.toNat = id.toNat % t.columns.toNat := by
    rw [← UInt32.toNat_mod, ← UInt32.toNat_mod, hcolumn, hcolumn']
  have hdiv : other.toNat / t.columns.toNat = id.toNat / t.columns.toNat := by
    rw [← UInt32.toNat_div, ← UInt32.toNat_div, hrow, hrow']
  apply UInt32.toNat_inj.mp
  calc other.toNat
      = other.toNat % t.columns.toNat + t.columns.toNat * (other.toNat / t.columns.toNat) :=
        (Nat.mod_add_div _ _).symm
    _ = id.toNat % t.columns.toNat + t.columns.toNat * (id.toNat / t.columns.toNat) := by
        rw [hmod, hdiv]
    _ = id.toNat := Nat.mod_add_div _ _

/-! ### Rows -/

/-- The rows are at most `n` exactly if `n` rows hold all tiles. -/
theorem rows_le_iff (h : t.columns ≠ 0) {n : Nat} :
    t.rows ≤ n ↔ t.tileCount.toNat ≤ t.columns.toNat * n := by
  have hpos : 0 < t.columns.toNat := UInt32.pos_iff_ne_zero.mpr h
  rw [rows, if_neg h, Nat.div_le_iff_le_mul_add_pred hpos]
  omega

/-- The cell of a tile lies in the columns and rows of the tileset. -/
theorem lt_of_cell? (h : t.cell? id = some (column, row)) :
    column < t.columns ∧ row.toNat < t.rows := by
  obtain ⟨hcolumns, hid, rfl, rfl⟩ := cell?_eq_some_iff.mp h
  have hpos : 0 < t.columns.toNat := UInt32.pos_iff_ne_zero.mpr hcolumns
  constructor
  · rw [UInt32.lt_iff_toNat_lt, UInt32.toNat_mod]
    exact Nat.mod_lt _ hpos
  · -- The rows before that of the tile do not hold it, so they are not all rows.
    refine Nat.lt_of_not_le fun hrow => ?_
    have hcount := (rows_le_iff hcolumns).mp hrow
    rw [UInt32.toNat_div] at hcount
    have hle := Nat.mul_div_le id.toNat t.columns.toNat
    rw [UInt32.lt_iff_toNat_lt] at hid
    omega

/-! ### Rectangles -/

/-- The pixel column in which the tile starts, in exact arithmetic. -/
def left (t : Tileset) (id : UInt32) : Nat :=
  t.margin.toNat + id.toNat % t.columns.toNat * (t.tileWidth.toNat + t.spacing.toNat)

/-- The pixel line in which the tile starts, in exact arithmetic. -/
def top (t : Tileset) (id : UInt32) : Nat :=
  t.margin.toNat + id.toNat / t.columns.toNat * (t.tileHeight.toNat + t.spacing.toNat)

/-- The left edge of a tile, in exact arithmetic. -/
theorem left_eq : t.left id =
    (t.tileWidth.toNat + t.spacing.toNat) * (id % t.columns).toNat + t.margin.toNat := by
  rw [left, UInt32.toNat_mod, Nat.add_comm, Nat.mul_comm]

theorem top_eq : t.top id =
    (t.tileHeight.toNat + t.spacing.toNat) * (id / t.columns).toNat + t.margin.toNat := by
  rw [top, UInt32.toNat_div, Nat.add_comm, Nat.mul_comm]

/-- A rectangle is made of the offsets of its column and its row. -/
theorem rect?_eq_some_iff_offset {r : Rect} :
    t.rect? id = some r ↔ ∃ column row, t.cell? id = some (column, row) ∧
      Grid.offset? column t.tileWidth t.margin t.spacing = some r.x ∧
      Grid.offset? row t.tileHeight t.margin t.spacing = some r.y ∧
      t.tileWidth = r.width ∧ t.tileHeight = r.height := by
  simp only [rect?, Option.bind_eq_bind, Option.bind_eq_some_iff, Option.pure_def,
    Option.some.injEq, Prod.exists]
  constructor
  · rintro ⟨column, row, hcell, x, hx, y, hy, rfl⟩
    exact ⟨column, row, hcell, hx, hy, rfl, rfl⟩
  · rintro ⟨column, row, hcell, hx, hy, hwidth, hheight⟩
    exact ⟨column, row, hcell, r.x, hx, r.y, hy, by rw [hwidth, hheight]⟩

/-- A rectangle is given if its corner fits the range, and its corner is then exact. -/
theorem rect?_eq_some_iff {r : Rect} :
    t.rect? id = some r ↔ t.columns ≠ 0 ∧ id < t.tileCount ∧
      r.x.toNat = t.left id ∧ r.y.toNat = t.top id ∧
      r.width = t.tileWidth ∧ r.height = t.tileHeight := by
  simp only [rect?_eq_some_iff_offset, cell?_eq_some_iff, Grid.offset?_eq_some_iff, left_eq, top_eq]
  constructor
  · rintro ⟨column, row, ⟨hcolumns, hid, rfl, rfl⟩, hx, hy, hwidth, hheight⟩
    exact ⟨hcolumns, hid, hx.symm, hy.symm, hwidth.symm, hheight.symm⟩
  · rintro ⟨hcolumns, hid, hx, hy, hwidth, hheight⟩
    exact ⟨_, _, ⟨hcolumns, hid, rfl, rfl⟩, hx.symm, hy.symm, hwidth.symm, hheight.symm⟩

/-- The ways for a tile to have no rectangle, those of the arithmetic included. -/
theorem rect?_eq_none_iff :
    t.rect? id = none ↔ t.columns = 0 ∨ t.tileCount ≤ id ∨
      UInt32.size ≤ t.left id ∨ UInt32.size ≤ t.top id := by
  rw [Option.eq_none_iff_forall_ne_some]
  constructor
  · intro hnone
    by_cases hfits : t.columns ≠ 0 ∧ id < t.tileCount ∧
        t.left id < UInt32.size ∧ t.top id < UInt32.size
    · obtain ⟨hcolumns, hid, hleft, htop⟩ := hfits
      exact absurd (rect?_eq_some_iff.mpr ⟨hcolumns, hid, UInt32.toNat_ofNat_of_lt' hleft,
        UInt32.toNat_ofNat_of_lt' htop, rfl, rfl⟩)
        (hnone ⟨.ofNat (t.left id), .ofNat (t.top id), t.tileWidth, t.tileHeight⟩)
    · simpa only [Decidable.not_and_iff_or_not, Decidable.not_not, UInt32.not_lt,
        Nat.not_lt] using hfits
  · intro hcause r hr
    obtain ⟨hcolumns, hid, hx, hy, -, -⟩ := rect?_eq_some_iff.mp hr
    rcases hcause with hzero | hcount | hleft | htop
    · exact hcolumns hzero
    · exact UInt32.not_lt.mpr hcount hid
    · exact absurd r.x.toNat_lt_size (Nat.not_lt.mpr (hx ▸ hleft))
    · exact absurd r.y.toNat_lt_size (Nat.not_lt.mpr (hy ▸ htop))

/-- A pixel belongs to the rectangle of one tile at most. -/
theorem eq_of_covers {other : UInt32} {r s : Rect} {x y : Nat} (hr : t.rect? id = some r)
    (hs : t.rect? other = some s) (hrc : r.Covers x y) (hsc : s.Covers x y) : other = id := by
  obtain ⟨column, row, hcell, hx, hy, hwidth, hheight⟩ := rect?_eq_some_iff_offset.mp hr
  obtain ⟨column', row', hcell', hx', hy', hwidth', hheight'⟩ := rect?_eq_some_iff_offset.mp hs
  obtain ⟨hrx, hry⟩ := hrc
  obtain ⟨hsx, hsy⟩ := hsc
  rw [← hwidth] at hrx
  rw [← hwidth'] at hsx
  rw [← hheight] at hry
  rw [← hheight'] at hsy
  obtain rfl := Grid.eq_of_offset_of_mem hx hx' hrx hsx
  obtain rfl := Grid.eq_of_offset_of_mem hy hy' hry hsy
  exact eq_of_cell? hcell hcell'

/-- **Rectangles are exact and lie apart.** A tile has no rectangle exactly if it has no
cell or 32 bits do not hold where it starts; otherwise the rectangle starts at exactly that
pixel and has the size of a tile. Cells lie inside the grid and hold one tile each, and the
rectangles of two tiles have no pixel in common. -/
theorem rects_exact_and_apart (t : Tileset) :
    (∀ id, (t.rect? id = none ↔ t.columns = 0 ∨ t.tileCount ≤ id ∨
        UInt32.size ≤ t.left id ∨ UInt32.size ≤ t.top id) ∧
      ∀ r, t.rect? id = some r → r.x.toNat = t.left id ∧ r.y.toNat = t.top id ∧
        r.width = t.tileWidth ∧ r.height = t.tileHeight) ∧
    (∀ id column row, t.cell? id = some (column, row) →
      column < t.columns ∧ row.toNat < t.rows ∧
        ∀ other, t.cell? other = some (column, row) → other = id) ∧
    ∀ id other r s, id ≠ other → t.rect? id = some r → t.rect? other = some s →
      ∀ x y, ¬ (r.Covers x y ∧ s.Covers x y) := by
  refine ⟨fun id => ⟨rect?_eq_none_iff, fun r hr => ?_⟩, fun id column row hcell => ?_, ?_⟩
  · exact (rect?_eq_some_iff.mp hr).2.2
  · obtain ⟨hcolumn, hrow⟩ := lt_of_cell? hcell
    exact ⟨hcolumn, hrow, fun other hother => eq_of_cell? hcell hother⟩
  · rintro id other r s hne hr hs x y ⟨hrc, hsc⟩
    exact hne (eq_of_covers hr hs hrc hsc).symm

def ledge (margin : UInt32) : Tileset :=
  { empty with
    tileWidth := 16, tileHeight := 8, tileCount := 3, columns := 2, spacing := 2,
    margin := margin }

/-- The third tile of the ledge stands alone in the second row, apart from the second one;
with a margin that leaves no room below 2^32 for a second column, that one has no
rectangle. -/
theorem ledge_rects :
    ((ledge 1).cell? 2 = some (0, 1) ∧ 0 < (ledge 1).columns ∧ 1 < (ledge 1).rows) ∧
      (∀ x y, ¬ (Rect.Covers ⟨1, 11, 16, 8⟩ x y ∧ Rect.Covers ⟨19, 1, 16, 8⟩ x y)) ∧
      (ledge 4294967278).rect? 1 = none := by
  obtain ⟨hexact, hcells, hapart⟩ := rects_exact_and_apart (ledge 1)
  obtain ⟨hcolumn, hrow, -⟩ := hcells 2 0 1 (by decide)
  refine ⟨⟨by decide, hcolumn, hrow⟩, ?_, ?_⟩
  · exact hapart 2 1 _ _ (by decide) (by decide) (by decide)
  · exact ((rects_exact_and_apart (ledge 4294967278)).1 1).1.mpr (by decide)

end Tileset

namespace Check

/-! ### The check of the grid -/

theorem sizeUnknown_iff {image : SheetImage} :
    image.sizeUnknown = true ↔ image.width = 0 ∧ image.height = 0 := by
  simp [SheetImage.sizeUnknown]

/-- An image of known size has room for the grid exactly if it has room for the columns
and for the rows. -/
theorem sizeIssues_eq_nil_iff_rows {label : String} {t : Tileset} {image : SheetImage}
    (h : t.columns ≠ 0) :
    sizeIssues label t image = [] ↔
      t.columns.toNat ≤ t.columnsFor image.width ∧ t.rows ≤ t.rowsFor image.height := by
  rw [sizeIssues_eq_nil_iff, Tileset.rows_le_iff h]

/-- **The check of the grid is a comparison of columns and rows.** Nothing is found exactly
if tiles have a size and, where there is an image, the tiles stand in columns and the
declared size is unknown or has room for these columns and for all rows. -/
theorem gridIssues_eq_nil_iff (label : String) (t : Tileset) :
    gridIssues label t = [] ↔ t.tileWidth ≠ 0 ∧ t.tileHeight ≠ 0 ∧
      (t.image = none ∨ ∃ image, t.image = some image ∧ t.columns ≠ 0 ∧
        (image.width = 0 ∧ image.height = 0 ∨
          t.columns.toNat ≤ t.columnsFor image.width ∧ t.rows ≤ t.rowsFor image.height)) := by
  by_cases hsize : t.tileWidth = 0 ∨ t.tileHeight = 0
  · simp only [gridIssues, if_pos hsize, reduceCtorEq, false_iff]
    rintro ⟨hwidth, hheight, -⟩
    exact hsize.elim hwidth hheight
  · obtain ⟨hwidth, hheight⟩ := not_or.mp hsize
    rw [gridIssues, if_neg hsize]
    cases himage : t.image with
    | none => simp [hwidth, hheight]
    | some image =>
        by_cases hcolumns : t.columns = 0
        · simp [hcolumns]
        · by_cases hunknown : image.sizeUnknown = true
          · simp [hwidth, hheight, hcolumns, hunknown, sizeUnknown_iff.mp hunknown]
          · simp [hwidth, hheight, hcolumns, hunknown, sizeIssues_eq_nil_iff_rows hcolumns,
              mt sizeUnknown_iff.mpr hunknown]

end Check

end TileAtlas
