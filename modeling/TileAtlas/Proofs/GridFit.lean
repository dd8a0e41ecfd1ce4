/-
How many cells have room along one side of an image.

`Grid.HasRoom` says it with exact sums: the margin, the tiles, and the spacing between
neighbours. `Grid.fitCount` finds the number with one division and sums that stop at the
largest 32-bit number. If neither the extent nor the tile is cut short by that, it is the
greatest number of cells that have room (`Grid.le_fitCount_iff`), and the cells it counts
are those whose offset exists and whose tile ends inside the extent
(`Grid.lt_fitCount_iff_offset?`): the two computations of the grid describe the same cells.

The hypotheses differ in what they are needed for. A step that 32 bits hold keeps cells
without room from being counted, an uncut extent keeps cells with room from being left out.
-/

import Mathlib.Order.Bounds.Defs
import TileAtlas.Proofs.Grid

namespace TileAtlas.Grid

variable {extent tile margin spacing : UInt32} {k n : Nat}

/-! ### Room in exact sums -/

/-- `n` cells have room: none of them always, others if the margin, the tiles and the spacing
between neighbours do not exceed the extent. -/
def HasRoom (extent tile margin spacing : UInt32) (n : Nat) : Prop :=
  n = 0 ∨ margin.toNat + n * tile.toNat + (n - 1) * spacing.toNat ≤ extent.toNat

instance : DecidablePred (HasRoom extent tile margin spacing) :=
  fun _ => inferInstanceAs (Decidable (_ ∨ _))

/-- The cells up to the one at index `k` have room if that one ends inside the extent. -/
theorem hasRoom_succ_iff :
    HasRoom extent tile margin spacing (k + 1) ↔
      (tile.toNat + spacing.toNat) * k + margin.toNat + tile.toNat ≤ extent.toNat := by
  have hend : margin.toNat + (k + 1) * tile.toNat + (k + 1 - 1) * spacing.toNat =
      (tile.toNat + spacing.toNat) * k + margin.toNat + tile.toNat := by
    rw [Nat.add_sub_cancel, Nat.succ_mul, Nat.add_mul, Nat.mul_comm k, Nat.mul_comm k]
    omega
  unfold HasRoom
  rw [hend]
  exact or_iff_right (Nat.succ_ne_zero k)

/-! ### The count -/

/-- A cell that ends inside the extent is counted if the extent is not cut short. -/
theorem lt_fitCount_of_offset_add_tile_le (htile : 0 < tile)
    (hextent : extent.toNat + spacing.toNat < UInt32.size)
    (hend : (tile.toNat + spacing.toNat) * k + margin.toNat + tile.toNat ≤ extent.toNat) :
    k < fitCount extent tile margin spacing := by
  -- A capped step is no longer than the exact one, so it only makes more room.
  have hcapped : (k + 1) * cappedAdd tile spacing ≤ (k + 1) * (tile.toNat + spacing.toNat) :=
    Nat.mul_le_mul_left _ (cappedAdd_le_add tile spacing)
  have hmul : (k + 1) * (tile.toNat + spacing.toNat) ≤
      cappedAdd extent spacing - margin.toNat := by
    rw [cappedAdd_eq_add hextent, Nat.succ_mul, Nat.mul_comm k]
    omega
  unfold fitCount
  rw [if_neg (UInt32.pos_iff_ne_zero.mp htile)]
  exact (Nat.le_div_iff_mul_le (cappedAdd_pos htile spacing)).mpr (Nat.le_trans hcapped hmul)

section Exact

variable (htile : 0 < tile) (hextent : extent.toNat + spacing.toNat < UInt32.size)
  (hstep : tile.toNat + spacing.toNat < UInt32.size)

include htile hextent hstep

/-- One more cell fits as long as it ends within the image, in exact arithmetic. -/
theorem lt_fitCount_iff :
    k < fitCount extent tile margin spacing ↔
      (tile.toNat + spacing.toNat) * k + margin.toNat + tile.toNat ≤ extent.toNat :=
  ⟨offset_add_tile_le_of_lt_fitCount hstep, lt_fitCount_of_offset_add_tile_le htile hextent⟩

/-- The numbers up to the count are those for which there is room. -/
theorem le_fitCount_iff :
    n ≤ fitCount extent tile margin spacing ↔ HasRoom extent tile margin spacing n := by
  cases n with
  | zero => exact iff_of_true (Nat.zero_le _) (.inl rfl)
  | succ k => rw [hasRoom_succ_iff, Nat.succ_le_iff, lt_fitCount_iff htile hextent hstep]

/-- The cells that are counted are those that can be addressed and end inside the extent. -/
theorem lt_fitCount_iff_offset? {index : UInt32} :
    index.toNat < fitCount extent tile margin spacing ↔
      ∃ o, offset? index tile margin spacing = some o ∧
        o.toNat + tile.toNat ≤ extent.toNat := by
  rw [lt_fitCount_iff htile hextent hstep]
  constructor
  · intro hend
    -- What ends inside the extent starts at a 32-bit number.
    have hlt : (tile.toNat + spacing.toNat) * index.toNat + margin.toNat < UInt32.size := by
      have hsize := extent.toNat_lt_size
      omega
    have hoffset := UInt32.toNat_ofNat_of_lt' hlt
    refine ⟨_, offset?_eq_some_iff.mpr hoffset.symm, ?_⟩
    rw [hoffset]
    exact hend
  · rintro ⟨o, ho, hend⟩
    rwa [offset?_eq_some_iff.mp ho]

end Exact

/-- **The count of cells is exact.** For a tile that is not empty, and if 32 bits hold both
the extent and the tile with a spacing added, the count is the greatest number of cells that
have room, zero where the margin leaves none. It agrees with the offsets: a cell is counted
exactly if it has an offset from which the tile ends inside the extent. -/
theorem fitCount_exact (htile : 0 < tile)
    (hextent : extent.toNat + spacing.toNat < UInt32.size)
    (hstep : tile.toNat + spacing.toNat < UInt32.size) :
    IsGreatest {n | HasRoom extent tile margin spacing n}
        (fitCount extent tile margin spacing) ∧
      ∀ index : UInt32, index.toNat < fitCount extent tile margin spacing ↔
        ∃ o, offset? index tile margin spacing = some o ∧
          o.toNat + tile.toNat ≤ extent.toNat := by
  refine ⟨⟨?_, ?_⟩, fun index => lt_fitCount_iff_offset? htile hextent hstep⟩
  · exact (le_fitCount_iff htile hextent hstep).mp (Nat.le_refl _)
  · intro n hn
    exact (le_fitCount_iff htile hextent hstep).mpr hn

/-- Tiles of 32 pixels with a margin of 1 and 2 pixels between them: 16 have room in 544
pixels, the last of them starting at pixel 511. In 34 pixels none has room behind a margin of
35, although the margin is within the extent and the spacing together. -/
theorem fitCount_exact_margins :
    fitCount 544 32 1 2 = 16 ∧ IsGreatest {n | HasRoom 544 32 1 2 n} 16 ∧
      (∃ o, offset? 15 32 1 2 = some o ∧ o.toNat + (32 : UInt32).toNat ≤ (544 : UInt32).toNat) ∧
      fitCount 34 32 35 2 = 0 ∧ IsGreatest {n | HasRoom 34 32 35 2 n} 0 := by
  have hcount : fitCount 544 32 1 2 = 16 := by decide
  have hnone : fitCount 34 32 35 2 = 0 := by decide
  obtain ⟨hgreatest, hoffset⟩ :=
    @fitCount_exact 544 32 1 2 (by decide) (by decide) (by decide)
  obtain ⟨hzero, -⟩ := @fitCount_exact 34 32 35 2 (by decide) (by decide) (by decide)
  rw [hcount] at hgreatest hoffset
  rw [hnone] at hzero
  exact ⟨hcount, hgreatest, (hoffset 15).mp (by decide), hnone, hzero⟩

example : HasRoom 542 32 1 2 15 ∧ ¬ HasRoom 542 32 1 2 16 := by decide

end TileAtlas.Grid
