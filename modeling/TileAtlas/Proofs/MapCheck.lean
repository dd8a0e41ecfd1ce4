/-
What a map without errors satisfies.

The check of a map has two kinds of errors: first ids that are zero or do not ascend, and
ids in layers that belong to no tile. `Check.map_isOk_iff` says that a report without
errors has neither, whatever it warns about. Together with the loader, which brings one
document for each reference, every cell of such a map shows a tile that is there.
-/

import TileAtlas.Proofs.GlobalIds
import TileAtlas.Proofs.Loading
import TileAtlas.Proofs.Severities

namespace TileAtlas

namespace Check

/-! ### First ids -/

theorem max_eq_of_lt {a b : UInt32} (h : a < b) : max a b = b :=
  if_pos (UInt32.le_of_lt h)

/-- Nothing is said about first ids exactly if they ascend from above the one before. -/
theorem firstGidIssues_eq_nil_iff {label : String} {index : Nat} {previous : UInt32}
    {refs : List TilesetRef} :
    firstGidIssues label index previous refs = [] ↔
      (∀ r ∈ refs, previous < r.firstGid) ∧
        refs.Pairwise (fun r s => r.firstGid < s.firstGid) := by
  induction refs generalizing index previous with
  | nil => simp [firstGidIssues]
  | cons r rs ih =>
      rw [firstGidIssues, List.append_eq_nil_iff, ih, List.forall_mem_cons, List.pairwise_cons]
      constructor
      · rintro ⟨hhead, hrest, hpairs⟩
        split at hhead
        · cases hhead
        · split at hhead
          · cases hhead
          · rename_i hle
            have hlt := UInt32.not_le.mp hle
            rw [max_eq_of_lt hlt] at hrest
            exact ⟨⟨hlt, fun s hs => UInt32.lt_trans hlt (hrest s hs)⟩, hrest, hpairs⟩
      · rintro ⟨⟨hlt, -⟩, hrest, hpairs⟩
        have hzero : r.firstGid ≠ 0 := by
          intro hzero
          rw [hzero] at hlt
          exact absurd hlt UInt32.not_lt_zero
        rw [if_neg hzero, if_neg (UInt32.not_le.mpr hlt), max_eq_of_lt hlt]
        exact ⟨rfl, hrest, hpairs⟩

theorem kind_of_mem_firstGidIssues {label : String} {index : Nat} {previous : UInt32}
    {refs : List TilesetRef} {i : Issue} (h : i ∈ firstGidIssues label index previous refs) :
    i.kind = .invalidFirstGid := by
  induction refs generalizing index previous with
  | nil => cases h
  | cons r rs ih =>
      rw [firstGidIssues] at h
      rcases List.mem_append.mp h with h | h
      · split at h
        · rw [List.mem_singleton.mp h, Issue.kind_new]
        · split at h
          · rw [List.mem_singleton.mp h, Issue.kind_new]
          · cases h
      · exact ih h

theorem isError_of_mem_firstGidIssues {label : String} {index : Nat} {previous : UInt32}
    {refs : List TilesetRef} {i : Issue} (h : i ∈ firstGidIssues label index previous refs) :
    i.isError = true := by
  rw [graded_firstGidIssues.isError_eq h, kind_of_mem_firstGidIssues h]
  rfl

/-! ### Ids in layers -/

/-- The gids checked in a layer are those in use, without flip bits; empty cells have none. -/
theorem mem_gidsOf {layer : Layer} {g : UInt32} :
    g ∈ gidsOf layer ↔ g ≠ 0 ∧ ∃ gid ∈ layer.gids, stripFlips gid = g := by
  unfold gidsOf
  rw [Ascending.mem_ofList, List.mem_filter, List.mem_map, bne_iff_ne, and_comm]

/-- Nothing is said about an id exactly if it belongs to a reference, and to a tile of
the document there, if there is one. -/
theorem gidIssues_eq_nil_iff {location : String} {l : LoadedMap} {gid : UInt32} :
    gidIssues location l gid = [] ↔
      ∃ i tile, l.map.resolve? gid = some (i, tile) ∧
        ∀ doc, l.tilesets[i]? = some doc → tile < doc.tileset.tileCount := by
  unfold gidIssues
  cases hresolve : l.map.resolve? gid with
  | none => simp
  | some r =>
      obtain ⟨i, tile⟩ := r
      cases hdoc : l.tilesets[i]? with
      | none => simp [hdoc]
      | some doc => simp [hdoc, Tileset.containsTile]

theorem kind_of_mem_gidIssues {location : String} {l : LoadedMap} {gid : UInt32} {i : Issue}
    (h : i ∈ gidIssues location l gid) : i.kind = .unresolvedGid ∨ i.kind = .gidOutOfRange := by
  unfold gidIssues at h
  split at h
  · rw [List.mem_singleton.mp h]
    exact .inl rfl
  · split at h
    · cases h
    · split at h
      · cases h
      · rw [List.mem_singleton.mp h]
        exact .inr rfl

/-- A layer is checked for gids that do not resolve and for gids out of range. -/
theorem kind_of_mem_layerIssues {label : String} {l : LoadedMap} {layer : Layer} {i : Issue}
    (h : i ∈ layerIssues label l layer) :
    i.kind = .unresolvedGid ∨ i.kind = .gidOutOfRange := by
  obtain ⟨g, -, hi⟩ := List.mem_flatMap.mp h
  exact kind_of_mem_gidIssues hi

/-- Findings about the gids of a layer are errors. -/
theorem isError_of_mem_layerIssues {label : String} {l : LoadedMap} {layer : Layer} {i : Issue}
    (h : i ∈ layerIssues label l layer) : i.isError = true := by
  rw [graded_layerIssues.isError_eq h]
  rcases kind_of_mem_layerIssues h with hkind | hkind
  · rw [hkind]
    rfl
  · rw [hkind]
    rfl

/-! ### The whole report -/

theorem kind_of_mem_tileSizeIssues {label : String} {map : TileMap} {doc : TilesetDocument}
    {i : Issue} (h : i ∈ tileSizeIssues label map doc) : i.kind = .tileSizeMismatch := by
  unfold tileSizeIssues at h
  simp only at h
  split at h
  · cases h
  · rw [List.mem_singleton.mp h, Issue.kind_new]

/-- A tileset with another tile size than the map's is warned about only. -/
theorem not_isError_of_mem_tileSizeIssues {label : String} {map : TileMap}
    {doc : TilesetDocument} {i : Issue} (h : i ∈ tileSizeIssues label map doc) :
    i.isError = false := by
  rw [graded_tileSizeIssues.isError_eq h, kind_of_mem_tileSizeIssues h]
  rfl

/-- A map has no errors exactly if its first ids ascend from one and each id in a layer
that is not empty passes its check. -/
theorem map_isOk_iff {label : String} {l : LoadedMap} :
    (map label l).isOk = true ↔
      (∀ r ∈ l.map.tilesets, 0 < r.firstGid) ∧ l.map.Ascends ∧
        ∀ layer ∈ l.map.layers, ∀ gid ∈ layer.gids, stripFlips gid ≠ 0 →
          ∃ i tile, l.map.resolve? gid = some (i, tile) ∧
            ∀ doc, l.tilesets[i]? = some doc → tile < doc.tileset.tileCount := by
  have hsizes : ∀ i ∈ l.tilesets.flatMap (tileSizeIssues label l.map), i.isError = false := by
    intro i hi
    obtain ⟨doc, -, hi⟩ := List.mem_flatMap.mp hi
    exact not_isError_of_mem_tileSizeIssues hi
  have hlayers : ∀ i ∈ l.map.layers.flatMap (layerIssues label l), i.isError = true := by
    intro i hi
    obtain ⟨layer, -, hi⟩ := List.mem_flatMap.mp hi
    exact isError_of_mem_layerIssues hi
  rw [Report.isOk_iff]
  simp only [map, List.forall_mem_append]
  rw [Report.eq_nil_iff_of_isError hlayers,
    Report.eq_nil_iff_of_isError fun i => isError_of_mem_firstGidIssues,
    firstGidIssues_eq_nil_iff, List.flatMap_eq_nil_iff]
  constructor
  · rintro ⟨⟨⟨hpos, hascends⟩, -⟩, hnil⟩
    refine ⟨hpos, hascends, fun layer hlayer gid hgid hcell => ?_⟩
    have hmem := mem_gidsOf.mpr ⟨hcell, gid, hgid, rfl⟩
    have hgidnil := List.flatMap_eq_nil_iff.mp (hnil layer hlayer) _ hmem
    rw [gidIssues_eq_nil_iff, TileMap.resolve?_stripFlips] at hgidnil
    exact hgidnil
  · rintro ⟨hpos, hascends, hcells⟩
    refine ⟨⟨⟨hpos, hascends⟩, hsizes⟩, fun layer hlayer => ?_⟩
    refine List.flatMap_eq_nil_iff.mpr fun g hg => ?_
    obtain ⟨hcell, gid, hgid, rfl⟩ := mem_gidsOf.mp hg
    rw [gidIssues_eq_nil_iff, TileMap.resolve?_stripFlips]
    exact hcells layer hlayer gid hgid hcell

end Check

namespace LoadedMap

/-- **No cell is left dangling.** In a map that was loaded with its tilesets and has no
errors, every cell that is not empty shows a tile: its id lies in the range of exactly
one reference, it stands for the tile that many above the first id of the document
there, and that document has such a tile. -/
theorem cell_shows_tile_of_isOk {d : Disk} {path : Path} {l : LoadedMap}
    (hload : d.loadMapWithTilesets path = .ok l) {label : String}
    (hok : (Check.map label l).isOk = true) {layer : Layer} (hlayer : layer ∈ l.map.layers)
    {gid : UInt32} (hgid : gid ∈ layer.gids) (hcell : stripFlips gid ≠ 0) :
    ∃ i ref doc, l.map.tilesets[i]? = some ref ∧ l.tilesets[i]? = some doc ∧
      ref.firstGid ≤ stripFlips gid ∧
      l.tilesetFor? gid = some (doc, stripFlips gid - ref.firstGid) ∧
      stripFlips gid - ref.firstGid < doc.tileset.tileCount ∧
      ∀ j, l.map.Holds j (stripFlips gid) ↔ j = i := by
  obtain ⟨-, hascends, hcells⟩ := Check.map_isOk_iff.mp hok
  obtain ⟨i, tile, hresolve, hdocs⟩ := hcells layer hlayer gid hgid hcell
  obtain ⟨-, ref, href, hle, rfl, -⟩ := TileMap.resolve?_eq_some_iff.mp hresolve
  have hi : i < l.tilesets.length := by
    rw [Disk.length_tilesets_of_loadMapWithTilesets hload]
    exact (List.getElem?_eq_some_iff.mp href).1
  have hdoc := List.getElem?_eq_getElem hi
  refine ⟨i, ref, l.tilesets[i], href, hdoc, hle, ?_, hdocs _ hdoc, fun j => ⟨?_, ?_⟩⟩
  · rw [tilesetFor?, hresolve, Option.bind_some, hdoc, Option.map_some]
  · intro hj
    exact hj.unique hascends (TileMap.holds_of_resolve? hascends hresolve)
  · rintro rfl
    exact TileMap.holds_of_resolve? hascends hresolve

/-- The flipped cell of the example shows the one tile of the tileset inside the map. -/
theorem mixed_cell_shows_tile :
    mixedDisk.loadMapWithTilesets ⟨"d/m.tmx"⟩ = .ok mixed ∧
      (Check.map "d/m.tmx" mixed).isOk = true ∧
      ∃ i ref doc, mixed.map.tilesets[i]? = some ref ∧ mixed.tilesets[i]? = some doc ∧
        ref.firstGid ≤ stripFlips 2147483651 ∧
        mixed.tilesetFor? 2147483651 = some (doc, stripFlips 2147483651 - ref.firstGid) ∧
        stripFlips 2147483651 - ref.firstGid < doc.tileset.tileCount ∧
        ∀ j, mixed.map.Holds j (stripFlips 2147483651) ↔ j = i := by
  have hok : (Check.map "d/m.tmx" mixed).isOk = true := by decide +kernel
  have hgid : 2147483651 ∈ (⟨"", true, .other, [2, 2147483651]⟩ : Layer).gids := by decide
  exact ⟨load_mixed, hok,
    cell_shows_tile_of_isOk load_mixed hok (List.mem_singleton.mpr rfl) hgid (by decide)⟩

end LoadedMap

end TileAtlas
