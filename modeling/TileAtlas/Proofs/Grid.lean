/-
Where the cells of a grid lie, and whether they lie inside the image.

`Grid.offset?` gives the start of a cell exactly or not at all
(`Grid.offset?_eq_some_iff`), `Grid.fitCount` counts cells with sums that stop at the
largest 32-bit number. The two agree as long as one step of the
grid, a tile and the spacing after it, can be written with 32 bits
(`Grid.offset_add_tile_le_of_lt_fitCount`). When a step is longer than that, at most one
cell is counted, and it is counted even where the tile is longer than the image
(`Grid.eq_zero_of_lt_fitCount`): that is `Grid.Overruns`.

`Check.gridFits_of_isOk` says what a tileset with an image of known size satisfies once
its check reports no error; from there on, tiles can be cut out of the image exactly if
they do not overrun it.
-/

import TileAtlas.Proofs.Severities

namespace TileAtlas

namespace Grid

/-! ### Offsets -/

/-- The checked sum is the exact one, and exists if that fits 64 bits. -/
theorem sum?_eq_some_iff {a b c : UInt64} :
    sum? a b = some c ↔ a.toNat + b.toNat = c.toNat := by
  unfold sum?
  split
  · rename_i hlt
    rw [Option.some.injEq, ← UInt64.toNat_inj, UInt64.toNat_add, Nat.mod_eq_of_lt hlt]
  · rename_i hge
    have hc := c.toNat_lt_size
    simp only [reduceCtorEq, false_iff]
    omega

theorem product?_eq_some_iff {a b c : UInt64} :
    product? a b = some c ↔ a.toNat * b.toNat = c.toNat := by
  unfold product?
  split
  · rename_i hlt
    rw [Option.some.injEq, ← UInt64.toNat_inj, UInt64.toNat_mul, Nat.mod_eq_of_lt hlt]
  · rename_i hge
    have hc := c.toNat_lt_size
    simp only [reduceCtorEq, false_iff]
    omega

/-- 64 bits always hold a tile and the spacing after it. -/
theorem toNat_step (tile spacing : UInt32) :
    (tile.toUInt64 + spacing.toUInt64).toNat = tile.toNat + spacing.toNat := by
  have htile := tile.toNat_lt
  have hspacing := spacing.toNat_lt
  rw [UInt64.toNat_add, UInt32.toNat_toUInt64, UInt32.toNat_toUInt64]
  omega

/-- The offset of a cell is the exact product and sum, whenever 32 bits hold it. -/
theorem offset?_eq_some_iff {index tile margin spacing o : UInt32} :
    offset? index tile margin spacing = some o ↔
      (tile.toNat + spacing.toNat) * index.toNat + margin.toNat = o.toNat := by
  simp only [offset?, Option.bind_eq_bind, Option.bind_eq_some_iff, product?_eq_some_iff,
    sum?_eq_some_iff, toNat_step, UInt32.toNat_toUInt64, Option.ite_none_right_eq_some,
    Option.some.injEq]
  constructor
  · rintro ⟨steps, hsteps, start, hstart, hlt, rfl⟩
    rw [hsteps, hstart, UInt64.toNat_toUInt32, Nat.mod_eq_of_lt hlt]
  · intro h
    -- What 32 bits hold at the end, 64 bits hold on the way.
    have hsteps : (tile.toNat + spacing.toNat) * index.toNat < UInt64.size := by
      have ho := o.toNat_lt_size
      have hsize : UInt32.size < UInt64.size := by decide
      omega
    refine ⟨UInt64.ofNat ((tile.toNat + spacing.toNat) * index.toNat), ?_, o.toUInt64, ?_, ?_, ?_⟩
    · exact (UInt64.toNat_ofNat_of_lt' hsteps).symm
    · rw [UInt64.toNat_ofNat_of_lt' hsteps, h, UInt32.toNat_toUInt64]
    · rw [UInt32.toNat_toUInt64]
      exact o.toNat_lt_size
    · exact UInt32.toUInt32_toUInt64 o

/-! ### Counting cells -/

theorem cappedAdd_le_add (a b : UInt32) : cappedAdd a b ≤ a.toNat + b.toNat :=
  Nat.min_le_left _ _

theorem cappedAdd_lt_size (a b : UInt32) : cappedAdd a b < UInt32.size :=
  Nat.lt_of_le_of_lt (Nat.min_le_right _ _) (by decide)

theorem cappedAdd_eq_add {a b : UInt32} (h : a.toNat + b.toNat < UInt32.size) :
    cappedAdd a b = a.toNat + b.toNat :=
  Nat.min_eq_left (Nat.le_sub_one_of_lt h)

/-- A sum past the range stays at the largest value. -/
theorem cappedAdd_eq_max {a b : UInt32} (h : UInt32.size ≤ a.toNat + b.toNat) :
    cappedAdd a b = UInt32.size - 1 :=
  Nat.min_eq_right (Nat.le_trans (Nat.sub_le _ _) h)

theorem cappedAdd_pos {a : UInt32} (h : 0 < a) (b : UInt32) : 0 < cappedAdd a b := by
  have ha : 0 < a.toNat := UInt32.lt_iff_toNat_lt.mp h
  have hmax : 0 < UInt32.size - 1 := by decide
  unfold cappedAdd
  omega

/-- The steps up to the end of a counted cell, in capped sums. -/
theorem succ_mul_le_of_lt_fitCount {k : Nat} {extent tile margin spacing : UInt32}
    (h : k < fitCount extent tile margin spacing) :
    0 < tile.toNat ∧
      (k + 1) * cappedAdd tile spacing + margin.toNat ≤ cappedAdd extent spacing := by
  unfold fitCount at h
  split at h
  · exact absurd h (Nat.not_lt_zero k)
  · rename_i htile
    have hpos : 0 < tile := UInt32.pos_iff_ne_zero.mpr htile
    have hstep := cappedAdd_pos hpos spacing
    have hmul : (k + 1) * cappedAdd tile spacing ≤ cappedAdd extent spacing - margin.toNat :=
      (Nat.le_div_iff_mul_le hstep).mp h
    -- A counted cell has room, so the margin does not use up the whole extent.
    have hroom : 0 < (k + 1) * cappedAdd tile spacing := Nat.mul_pos (Nat.succ_pos k) hstep
    exact ⟨hpos, by omega⟩

/-- Counted cells end inside the extent if 32 bits hold one step of the grid. -/
theorem offset_add_tile_le_of_lt_fitCount {k : Nat} {extent tile margin spacing : UInt32}
    (hstep : tile.toNat + spacing.toNat < UInt32.size)
    (h : k < fitCount extent tile margin spacing) :
    (tile.toNat + spacing.toNat) * k + margin.toNat + tile.toNat ≤ extent.toNat := by
  obtain ⟨-, hmul⟩ := succ_mul_le_of_lt_fitCount h
  rw [cappedAdd_eq_add hstep, Nat.succ_mul, Nat.mul_comm k] at hmul
  have hcap := cappedAdd_le_add extent spacing
  omega

/-- If 32 bits do not hold one step of the grid, only the cell at pixel zero is counted. -/
theorem eq_zero_of_lt_fitCount {k : Nat} {extent tile margin spacing : UInt32}
    (hstep : UInt32.size ≤ tile.toNat + spacing.toNat)
    (h : k < fitCount extent tile margin spacing) : k = 0 ∧ margin.toNat = 0 := by
  obtain ⟨-, hmul⟩ := succ_mul_le_of_lt_fitCount h
  rw [cappedAdd_eq_max hstep, Nat.succ_mul] at hmul
  have hcap := cappedAdd_lt_size extent spacing
  have hk : k * (UInt32.size - 1) = 0 := by omega
  have hsize : UInt32.size - 1 ≠ 0 := by decide
  exact ⟨(Nat.mul_eq_zero.mp hk).resolve_right hsize, by omega⟩

/-- A tile longer than the extent whose step 32 bits do not hold. The count does not see
that there is no room for it. -/
def Overruns (extent tile spacing : UInt32) : Prop :=
  UInt32.size ≤ tile.toNat + spacing.toNat ∧ extent.toNat < tile.toNat

instance (extent tile spacing : UInt32) : Decidable (Overruns extent tile spacing) :=
  inferInstanceAs (Decidable (_ ∧ _))

/-- Every counted cell has an offset, and it ends inside the extent unless the tile
overruns it. -/
theorem exists_offset_of_lt_fitCount {index extent tile margin spacing : UInt32}
    (h : index.toNat < fitCount extent tile margin spacing) :
    ∃ o, offset? index tile margin spacing = some o ∧
      (o.toNat + tile.toNat ≤ extent.toNat ↔ ¬ Overruns extent tile spacing) := by
  by_cases hstep : tile.toNat + spacing.toNat < UInt32.size
  · have hend := offset_add_tile_le_of_lt_fitCount hstep h
    have hlt : (tile.toNat + spacing.toNat) * index.toNat + margin.toNat < UInt32.size := by
      have hextent := extent.toNat_lt_size
      omega
    have hoffset := UInt32.toNat_ofNat_of_lt' hlt
    refine ⟨_, offset?_eq_some_iff.mpr hoffset.symm, ?_⟩
    rw [hoffset]
    exact ⟨fun _ hover => absurd hstep (Nat.not_lt.mpr hover.1), fun _ => hend⟩
  · obtain ⟨hindex, hmargin⟩ := eq_zero_of_lt_fitCount (Nat.not_lt.mp hstep) h
    refine ⟨0, offset?_eq_some_iff.mpr (by simp [hindex, hmargin]), ?_⟩
    unfold Overruns
    rw [UInt32.toNat_zero]
    omega

end Grid

namespace Check

/-! ### What a checked grid satisfies -/

/-- A grid that fits an image of known size: the columns stand side by side, and the rows
that the image has room for hold all tiles. -/
structure GridFits (t : Tileset) (image : SheetImage) : Prop where
  columns_pos : 0 < t.columns.toNat
  columns_le : t.columns.toNat ≤ t.columnsFor image.width
  tileCount_le : t.tileCount.toNat ≤ t.columns.toNat * t.rowsFor image.height

/-- The check of the size says nothing exactly when columns and tiles fit. -/
theorem sizeIssues_eq_nil_iff {label : String} {t : Tileset} {image : SheetImage} :
    sizeIssues label t image = [] ↔
      t.columns.toNat ≤ t.columnsFor image.width ∧
        t.tileCount.toNat ≤ t.columns.toNat * t.rowsFor image.height := by
  unfold sizeIssues
  simp only [List.append_eq_nil_iff, ite_eq_right_iff, List.cons_ne_self, imp_false, Nat.not_lt]
  constructor
  · rintro ⟨hcolumns, hcount⟩
    rw [Nat.min_eq_left hcolumns] at hcount
    exact ⟨hcolumns, hcount⟩
  · rintro ⟨hcolumns, hcount⟩
    rw [Nat.min_eq_left hcolumns]
    exact ⟨hcolumns, hcount⟩

def gridKinds : List IssueKind :=
  [.invalidTileSize, .missingColumns, .imageTooSmall, .tileCountExceedsGrid]

theorem kind_mem_of_mem_sizeIssues {label : String} {t : Tileset} {image : SheetImage} {i : Issue}
    (h : i ∈ sizeIssues label t image) : i.kind ∈ gridKinds := by
  unfold sizeIssues at h
  rcases List.mem_append.mp h with h | h
  · split at h
    · rw [List.mem_singleton.mp h]
      simp [gridKinds]
    · cases h
  · split at h
    · rw [List.mem_singleton.mp h]
      simp [gridKinds]
    · cases h

/-- The grid checks report kinds of their own, which no other check reports. -/
theorem kind_mem_of_mem_gridIssues {label : String} {t : Tileset} {i : Issue}
    (h : i ∈ gridIssues label t) : i.kind ∈ gridKinds := by
  unfold gridIssues at h
  split at h
  · rw [List.mem_singleton.mp h]
    simp [gridKinds]
  · split at h
    · cases h
    · split at h
      · rw [List.mem_singleton.mp h]
        simp [gridKinds]
      · split at h
        · cases h
        · exact kind_mem_of_mem_sizeIssues h

/-- All findings about the grid are errors. -/
theorem isError_of_mem_gridIssues {label : String} {t : Tileset} {i : Issue}
    (h : i ∈ gridIssues label t) : i.isError = true := by
  have herrors : ∀ kind ∈ gridKinds, (kind.severity == .error) = true := by decide
  rw [graded_gridIssues.isError_eq h]
  exact herrors i.kind (kind_mem_of_mem_gridIssues h)

/-- A report without errors has nothing to say about the grid. -/
theorem gridIssues_eq_nil_of_isOk {d : Disk} {doc : TilesetDocument} {options : Options}
    (hok : (tileset d doc options).isOk = true) : gridIssues doc.label doc.tileset = [] := by
  refine (Report.eq_nil_iff_of_isError fun i => isError_of_mem_gridIssues).mp fun i hi => ?_
  have hmem : i ∈ (tileset d doc options).issues :=
    List.mem_append_left _ (List.mem_append_left _ hi)
  exact Report.isOk_iff.mp hok i hmem

/-- A tileset that passes, with an image of known size, has a grid that fits this size. -/
theorem gridFits_of_isOk {d : Disk} {doc : TilesetDocument} {options : Options}
    {image : SheetImage} (himage : doc.tileset.image = some image)
    (hsized : image.sizeUnknown = false) (hok : (tileset d doc options).isOk = true) :
    GridFits doc.tileset image := by
  have hnil := gridIssues_eq_nil_of_isOk hok
  unfold gridIssues at hnil
  split at hnil
  · cases hnil
  · simp only [himage, hsized] at hnil
    split at hnil
    · cases hnil
    · rename_i hcolumns
      obtain ⟨hle, hcount⟩ := sizeIssues_eq_nil_iff.mp hnil
      exact ⟨UInt32.pos_iff_ne_zero.mpr hcolumns, hle, hcount⟩

end Check

namespace Tileset

/-! ### Cutting tiles out of the image -/

/-- Every tile has a rectangle, and all of it lies inside the image. -/
def InsideImage (t : Tileset) (image : SheetImage) : Prop :=
  ∀ id, id < t.tileCount →
    ∃ r, t.rect? id = some r ∧
      r.x.toNat + r.width.toNat ≤ image.width.toNat ∧
      r.y.toNat + r.height.toNat ≤ image.height.toNat

/-- The column and row of a tile lie inside a grid that fits. -/
theorem exists_cell_of_gridFits {t : Tileset} {image : SheetImage} (hfits : Check.GridFits t image)
    {id : UInt32} (hid : id < t.tileCount) :
    ∃ column row, t.cell? id = some (column, row) ∧
      column.toNat < t.columnsFor image.width ∧ row.toNat < t.rowsFor image.height := by
  have hcolumns : t.columns ≠ 0 := by
    intro hzero
    have hpos := hfits.columns_pos
    rw [hzero] at hpos
    exact absurd hpos (by decide)
  have hcell : t.cell? id = some (id % t.columns, id / t.columns) := by
    simp [cell?, containsTile, hcolumns, hid]
  refine ⟨_, _, hcell, ?_, ?_⟩
  · rw [UInt32.toNat_mod]
    exact Nat.lt_of_lt_of_le (Nat.mod_lt _ hfits.columns_pos) hfits.columns_le
  · rw [UInt32.toNat_div, Nat.div_lt_iff_lt_mul hfits.columns_pos, Nat.mul_comm]
    exact Nat.lt_of_lt_of_le (UInt32.lt_iff_toNat_lt.mp hid) hfits.tileCount_le

/-- In a grid that fits, every tile has a rectangle of the tile's size, and along each
side it ends inside the image unless the tile overruns it. -/
theorem exists_rect_of_gridFits {t : Tileset} {image : SheetImage} (hfits : Check.GridFits t image)
    {id : UInt32} (hid : id < t.tileCount) :
    ∃ r, t.rect? id = some r ∧
      (r.x.toNat + r.width.toNat ≤ image.width.toNat ↔
        ¬ Grid.Overruns image.width t.tileWidth t.spacing) ∧
      (r.y.toNat + r.height.toNat ≤ image.height.toNat ↔
        ¬ Grid.Overruns image.height t.tileHeight t.spacing) := by
  obtain ⟨column, row, hcell, hcolumn, hrow⟩ := exists_cell_of_gridFits hfits hid
  obtain ⟨x, hx, hwidth⟩ := Grid.exists_offset_of_lt_fitCount hcolumn
  obtain ⟨y, hy, hheight⟩ := Grid.exists_offset_of_lt_fitCount hrow
  exact ⟨⟨x, y, t.tileWidth, t.tileHeight⟩, by simp [rect?, hcell, hx, hy], hwidth, hheight⟩

/-- **When a tileset without errors can be cut up.** Every tile of a tileset whose check
reports no error has a rectangle. All of them lie inside an image of known size, unless
there is a tile and it overruns the image in width or in height. -/
theorem insideImage_iff_not_overruns {d : Disk} {doc : TilesetDocument} {options : Check.Options}
    {image : SheetImage} (himage : doc.tileset.image = some image)
    (hsized : image.sizeUnknown = false) (hok : (Check.tileset d doc options).isOk = true) :
    (∀ id, id < doc.tileset.tileCount → ∃ r, doc.tileset.rect? id = some r) ∧
      (doc.tileset.InsideImage image ↔
        ¬ (0 < doc.tileset.tileCount ∧
          (Grid.Overruns image.width doc.tileset.tileWidth doc.tileset.spacing ∨
            Grid.Overruns image.height doc.tileset.tileHeight doc.tileset.spacing))) := by
  have hfits := Check.gridFits_of_isOk himage hsized hok
  refine ⟨fun id hid => ?_, ?_, ?_⟩
  · obtain ⟨r, hr, -, -⟩ := exists_rect_of_gridFits hfits hid
    exact ⟨r, hr⟩
  · rintro hinside ⟨hpos, hover⟩
    obtain ⟨r, hr, hwidth, hheight⟩ := exists_rect_of_gridFits hfits hpos
    obtain ⟨r', hr', hx, hy⟩ := hinside 0 hpos
    cases hr.symm.trans hr'
    rcases hover with hover | hover
    · exact hwidth.mp hx hover
    · exact hheight.mp hy hover
  · intro hnone id hid
    obtain ⟨r, hr, hwidth, hheight⟩ := exists_rect_of_gridFits hfits hid
    have hpos : 0 < doc.tileset.tileCount := by
      rw [UInt32.lt_iff_toNat_lt] at hid ⊢
      exact Nat.lt_of_le_of_lt (Nat.zero_le _) hid
    exact ⟨r, hr, hwidth.mpr fun h => hnone ⟨hpos, .inl h⟩,
      hheight.mpr fun h => hnone ⟨hpos, .inr h⟩⟩

/-- A tileset of one row of square tiles, `columns` of them, on an image of its own. -/
def strip (side columns spacing margin : UInt32) (image : SheetImage) : TilesetDocument :=
  ⟨none,
    { empty with
      tileWidth := side, tileHeight := side, tileCount := columns, columns := columns,
      spacing := spacing, margin := margin, image := some image },
    []⟩

/-- Two tiles of 16 pixels with a margin of 1 and 2 pixels between them, on the smallest
image that has room for them: nothing is reported, and both lie inside. -/
theorem strip_insideImage :
    let image : SheetImage := ⟨"strip.png", 35, 17, none⟩
    let doc := strip 16 2 2 1 image
    (Check.tileset ⟨fun _ => .error .notFound⟩ doc ⟨false, []⟩).isOk = true ∧
      (∀ id, id < doc.tileset.tileCount → ∃ r, doc.tileset.rect? id = some r) ∧
      doc.tileset.InsideImage image := by
  intro image doc
  have hok : (Check.tileset ⟨fun _ => .error .notFound⟩ doc ⟨false, []⟩).isOk = true := by decide
  obtain ⟨hrects, hinside⟩ := insideImage_iff_not_overruns rfl (by decide) hok
  exact ⟨hok, hrects, hinside.mpr (by decide)⟩

/-- A tile of 32 pixels on an image of one pixel: with the largest spacing nothing is
reported, and the rectangle of the tile reaches out of the image. -/
theorem overrun_without_error :
    let image : SheetImage := ⟨"strip.png", 1, 1, none⟩
    let doc := strip 32 1 4294967295 0 image
    (Check.tileset ⟨fun _ => .error .notFound⟩ doc ⟨false, []⟩).isOk = true ∧
      doc.tileset.rect? 0 = some ⟨0, 0, 32, 32⟩ ∧ ¬ doc.tileset.InsideImage image := by
  intro image doc
  have hrect : doc.tileset.rect? 0 = some ⟨0, 0, 32, 32⟩ := by decide
  refine ⟨by decide, hrect, fun hinside => ?_⟩
  obtain ⟨r, hr, hwidth, -⟩ := hinside 0 (by decide)
  cases hrect.symm.trans hr
  exact absurd hwidth (by decide)

end Tileset

end TileAtlas
