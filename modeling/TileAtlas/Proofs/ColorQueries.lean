/-
What a Wang set says about a color, and how its answers fit together.

An id bears a color if some slot has it (`Wang.Id.Bears`), and is filled with a color
if every slot that the set type uses has it (`Wang.Id.Fills`). The queries of a set are
these two relations over its tiles: `Wang.WangSet.tilesWithColor_eq` and
`Wang.WangSet.uniformTiles_eq` list the tiles, `Wang.WangSet.mem_usedColors_iff` and
`Wang.WangSet.mem_unusedColors_iff` the colors.
-/

import Mathlib.Data.List.Basic
import TileAtlas.Wang.Set

namespace TileAtlas.Wang

variable {w : Id} {t : SetType} {s : WangSet} {c d : UInt8}

/-! ### Ids and their colors -/

/-- Every set type uses some slot. -/
theorem SetType.exists_uses (t : SetType) : ∃ p, t.uses p = true := by
  cases t with
  | corner => exact ⟨.topLeft, rfl⟩
  | edge => exact ⟨.top, rfl⟩
  | mixed => exact ⟨.top, rfl⟩

namespace Id

theorem mem_toList_iff : c ∈ w.toList ↔ ∃ p, w.colorAt p = c := by
  constructor
  · intro h
    obtain ⟨i, hi, hc⟩ := Vector.mem_iff_getElem.mp (Vector.mem_toList_iff.mp h)
    exact ⟨.ofIndex ⟨i, hi⟩, by simpa [colorAt] using hc⟩
  · rintro ⟨p, rfl⟩
    exact Vector.mem_toList_iff.mpr (Vector.getElem_mem _)

/-- Some slot has the color. -/
def Bears (w : Id) (c : UInt8) : Prop :=
  c ≠ 0 ∧ ∃ p, w.colorAt p = c

/-- Every slot that the set type uses has the color. -/
def Fills (w : Id) (t : SetType) (c : UInt8) : Prop :=
  c ≠ 0 ∧ ∀ p, t.uses p = true → w.colorAt p = c

theorem hasColor_iff : w.hasColor c = true ↔ w.Bears c := by
  simp [hasColor, Bears, mem_toList_iff]

theorem mem_colors_iff : c ∈ w.colors ↔ w.Bears c := by
  rw [mem_colors, mem_toList_iff, Bears]

/-- The shared color is the one that fills the id. -/
theorem uniform?_eq_some_iff : w.uniform? t = some c ↔ w.Fills t c := by
  simp only [Fills, ← SetType.mem_positions_iff]
  unfold uniform?
  split
  · -- There is always a first slot to compare the others with.
    rename_i hnone
    obtain ⟨p, hp⟩ := t.exists_uses
    rw [← SetType.mem_positions_iff, hnone] at hp
    cases hp
  · rename_i p ps hpositions
    simp only [hpositions, List.forall_mem_cons, List.all_eq_true, beq_iff_eq,
      Option.ite_none_right_eq_some, Option.some.injEq]
    constructor
    · rintro ⟨⟨hne, hrest⟩, rfl⟩
      exact ⟨hne, rfl, hrest⟩
    · rintro ⟨hne, rfl, hrest⟩
      exact ⟨⟨hne, hrest⟩, rfl⟩

instance (w : Id) (c : UInt8) : Decidable (w.Bears c) :=
  decidable_of_iff _ hasColor_iff

instance (w : Id) (t : SetType) (c : UInt8) : Decidable (w.Fills t c) :=
  decidable_of_iff _ uniform?_eq_some_iff

/-- An id bears the color that fills it. -/
theorem Fills.bears (h : w.Fills t c) : w.Bears c := by
  obtain ⟨p, hp⟩ := t.exists_uses
  exact ⟨h.1, p, h.2 p hp⟩

/-- At most one color fills an id. -/
theorem Fills.unique (h : w.Fills t c) (h' : w.Fills t d) : c = d := by
  obtain ⟨p, hp⟩ := t.exists_uses
  exact (h.2 p hp).symm.trans (h'.2 p hp)

end Id

/-! ### Tiles and colors of a set -/

namespace WangSet

theorem tilesWithColor_eq :
    s.tilesWithColor c = (s.tiles.filter fun w => w.wangId.Bears c).map (·.tileId) := by
  unfold tilesWithColor
  congr 2
  funext w
  rw [Bool.eq_iff_iff, Id.hasColor_iff, decide_eq_true_iff]

theorem uniformTiles_eq :
    s.uniformTiles c = (s.tiles.filter fun w => w.wangId.Fills s.setType c).map (·.tileId) := by
  unfold uniformTiles
  congr 2
  funext w
  rw [Bool.eq_iff_iff, beq_iff_eq, Id.uniform?_eq_some_iff, decide_eq_true_iff]

/-- No tile is listed for a color just when no tile bears it. -/
theorem tilesWithColor_eq_nil_iff :
    s.tilesWithColor c = [] ↔ ∀ w ∈ s.tiles, ¬ w.wangId.Bears c := by
  simp [tilesWithColor_eq]

/-- The used colors are those that some tile bears. -/
theorem mem_usedColors_iff : c ∈ s.usedColors ↔ s.tilesWithColor c ≠ [] := by
  rw [Ne, tilesWithColor_eq_nil_iff, usedColors, Ascending.mem_ofList, List.mem_flatMap]
  simp [Id.mem_colors_iff]

def indices (s : WangSet) : List UInt8 :=
  (List.range (min s.colors.length 255)).map fun i => UInt8.ofNat (i + 1)

theorem toNat_ofNat_succ {i : Nat} (h : i < 255) : (UInt8.ofNat (i + 1)).toNat = i + 1 :=
  UInt8.toNat_ofNat_of_lt' (Nat.succ_lt_succ h)

/-- The indices of a set run from 1 to its number of colors, or to 255 where it has more. -/
theorem mem_indices_iff : c ∈ s.indices ↔ 1 ≤ c.toNat ∧ c.toNat ≤ min s.colors.length 255 := by
  simp only [indices, List.mem_map, List.mem_range]
  constructor
  · rintro ⟨i, hi, rfl⟩
    rw [toNat_ofNat_succ (by omega)]
    omega
  · rintro ⟨hone, hlast⟩
    exact ⟨c.toNat - 1, by omega, by rw [Nat.sub_add_cancel hone, UInt8.ofNat_toNat]⟩

theorem pairwise_indices : s.indices.Pairwise (· < ·) := by
  rw [indices, List.pairwise_map]
  refine List.pairwise_lt_range.imp_of_mem fun {i j} hi hj hij => ?_
  rw [List.mem_range] at hi hj
  rw [UInt8.lt_iff_toNat_lt, toNat_ofNat_succ (by omega), toNat_ofNat_succ (by omega)]
  omega

/-- The unused colors are the indices no tile bears. -/
theorem unusedColors_eq : s.unusedColors = s.indices.filter fun c => !s.usedColors.contains c :=
  rfl

/-- The unused colors are those with an index that no tile bears. -/
theorem mem_unusedColors_iff :
    c ∈ s.unusedColors ↔
      1 ≤ c.toNat ∧ c.toNat ≤ min s.colors.length 255 ∧ s.tilesWithColor c = [] := by
  rw [unusedColors_eq, List.mem_filter, mem_indices_iff, Bool.not_eq_true', ← Bool.not_eq_true,
    List.contains_iff_mem, mem_usedColors_iff, not_not, and_assoc]

/-- **The queries on colors agree.** A color is used exactly if some tile bears it; the
unused colors ascend, and are those with an index that no tile bears; the uniform tiles
of a color are among the tiles that bear it, both in the order of the set; index zero has
neither. And both are lists of entries of the set, of which each is uniform in at most one
color. -/
theorem color_queries_agree (s : WangSet) (c : UInt8) :
    (c ∈ s.usedColors ↔ s.tilesWithColor c ≠ []) ∧
    (s.unusedColors.Pairwise (· < ·) ∧
      (c ∈ s.unusedColors ↔
        1 ≤ c.toNat ∧ c.toNat ≤ min s.colors.length 255 ∧ s.tilesWithColor c = [])) ∧
    ((s.uniformTiles c).Sublist (s.tilesWithColor c) ∧
      (s.tilesWithColor c).Sublist (s.tiles.map (·.tileId))) ∧
    (s.uniformTiles 0 = [] ∧ s.tilesWithColor 0 = []) ∧
    s.tilesWithColor c = (s.tiles.filter fun w => w.wangId.Bears c).map (·.tileId) ∧
    s.uniformTiles c = (s.tiles.filter fun w => w.wangId.Fills s.setType c).map (·.tileId) ∧
    ∀ w ∈ s.tiles, ∀ d, w.wangId.Fills s.setType c → w.wangId.Fills s.setType d → c = d := by
  refine ⟨mem_usedColors_iff, ⟨?_, mem_unusedColors_iff⟩, ⟨?_, ?_⟩, ⟨?_, ?_⟩, tilesWithColor_eq,
    uniformTiles_eq, fun w _ d hc hd => hc.unique hd⟩
  · rw [unusedColors_eq]
    exact pairwise_indices.filter _
  · rw [uniformTiles_eq, tilesWithColor_eq]
    refine (List.monotone_filter_right s.tiles fun w hw => ?_).map _
    rw [decide_eq_true_iff] at hw ⊢
    exact hw.bears
  · exact List.filter_sublist.map _
  · simp [uniformTiles_eq, Id.Fills]
  · simp [tilesWithColor_eq, Id.Bears]

/-- Three colors of which the last is not used, and one that is not declared; the first tile
is listed twice. -/
def glade : WangSet where
  name := "glade"
  setType := .corner
  tile := none
  colors := [.plain "grass" .white, .plain "dirt" .white, .plain "water" .white]
  tiles := [⟨4, .filled .corner 1⟩, ⟨5, .ofColors 9 1 0 2 0 1 0 1⟩, ⟨4, .filled .corner 1⟩]

/-- The color that is not declared counts as used, the last one as unused, and each entry
for the first tile is uniform in one color. -/
theorem glade_queries :
    9 ∈ glade.usedColors ∧ 3 ∈ glade.unusedColors ∧
      glade.uniformTiles 1 = [4, 4] ∧ [4, 4].Sublist (glade.tilesWithColor 1) ∧
      ∀ d, (Id.filled .corner 1).Fills .corner d → 1 = d := by
  have huniform : glade.uniformTiles 1 = [4, 4] := by decide
  have hentry : ⟨4, .filled .corner 1⟩ ∈ glade.tiles := List.mem_cons_self
  obtain ⟨-, -, ⟨hsublist, -⟩, -, -, -, hone⟩ := color_queries_agree glade 1
  exact ⟨(color_queries_agree glade 9).1.mpr (by decide),
    (color_queries_agree glade 3).2.1.2.mpr (by decide), huniform, huniform ▸ hsublist,
    fun d hd => hone _ hentry d (by decide) hd⟩

end WangSet

end TileAtlas.Wang
