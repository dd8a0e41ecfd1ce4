/-
How serious the findings of a check are.

A report keeps whatever severities are put into it. Every check makes its findings by
`Issue.new`, so they are as serious as their kinds. This is shown function by function, for
a tileset (`Check.graded_tilesetWith`) and for a map (`Check.graded_map`), and from these for
all that a run over files reports (`CommandLine.graded_checkFiles`).
-/

import TileAtlas.CommandLine.Validate
import TileAtlas.Proofs.Fallible
import TileAtlas.Proofs.Report

namespace TileAtlas

open Report (Graded graded_nil graded_singleton_new graded_append)

namespace Check

variable {label location : String} {t : Tileset} {set : Wang.WangSet}

/-! ### Tilesets -/

theorem graded_sizeIssues {image : SheetImage} : Graded (sizeIssues label t image) :=
  graded_append.mpr
    ⟨.ite graded_singleton_new graded_nil, .ite graded_singleton_new graded_nil⟩

theorem graded_gridIssues : Graded (gridIssues label t) := by
  unfold gridIssues
  refine .ite graded_singleton_new ?_
  cases t.image with
  | none => exact graded_nil
  | some image => exact .ite graded_singleton_new (.ite graded_nil graded_sizeIssues)

theorem graded_imageFileIssues {size? : ImageReader} {d : Disk} {image : SheetImage}
    {path : Path} : Graded (imageFileIssues size? d label image path) := by
  unfold imageFileIssues
  split
  · exact graded_singleton_new
  · exact .ite graded_nil graded_singleton_new

/-- The findings about the image are graded, whatever reads its header. -/
theorem graded_imageIssues {size? : ImageReader} {d : Disk} {doc : TilesetDocument}
    {search : List Path} : Graded (imageIssues size? d label doc search) := by
  unfold imageIssues
  split
  · exact graded_nil
  · extract_lets candidates
    split
    · exact graded_imageFileIssues
    · exact graded_singleton_new

theorem graded_setTileIssues : Graded (setTileIssues location t set) := by
  unfold setTileIssues
  split
  · exact .ite graded_nil graded_singleton_new
  · exact graded_nil

theorem graded_colorIssues {position : Nat} {c : Wang.Color} :
    Graded (colorIssues location t position c) := by
  unfold colorIssues
  extract_lets name
  refine graded_append.mpr ⟨graded_append.mpr ⟨.ite graded_singleton_new graded_nil, ?_⟩,
    .ite graded_nil graded_singleton_new⟩
  split
  · exact .ite graded_nil graded_singleton_new
  · exact graded_nil

theorem graded_wangTileIssues {tile : Wang.Tile} :
    Graded (wangTileIssues location t set tile) := by
  unfold wangTileIssues
  simp only [graded_append]
  exact ⟨⟨⟨.ite graded_nil graded_singleton_new, .ite graded_nil graded_singleton_new⟩,
    .ite graded_nil graded_singleton_new⟩, .ite graded_singleton_new graded_nil⟩

theorem graded_wangTilesIssues {seen : List UInt32} {tiles : List Wang.Tile} :
    Graded (wangTilesIssues location t set seen tiles) := by
  induction tiles generalizing seen with
  | nil => exact graded_nil
  | cons tile tiles ih =>
      simp only [wangTilesIssues, graded_append]
      exact ⟨⟨.ite graded_singleton_new graded_nil, graded_wangTileIssues⟩, ih⟩

theorem graded_unusedColorIssues : Graded (unusedColorIssues location set) := by
  intro i hi
  obtain ⟨c, -, rfl⟩ := List.mem_map.mp hi
  rfl

theorem graded_wangSetIssues : Graded (wangSetIssues label t set) := by
  simp only [wangSetIssues, graded_append]
  exact ⟨⟨⟨graded_setTileIssues, .flatMap fun _ _ => graded_colorIssues⟩,
    graded_wangTilesIssues⟩, graded_unusedColorIssues⟩

theorem graded_wangSetsIssues {seen : List String} {sets : List Wang.WangSet} :
    Graded (wangSetsIssues label t seen sets) := by
  induction sets generalizing seen with
  | nil => exact graded_nil
  | cons set sets ih =>
      simp only [wangSetsIssues, graded_append]
      exact ⟨⟨.ite graded_singleton_new graded_nil, graded_wangSetIssues⟩, ih⟩

/-- The findings about a tileset are as serious as their kinds. -/
theorem graded_tilesetWith {size? : ImageReader} {d : Disk} {doc : TilesetDocument}
    {options : Options} : Graded (tilesetWith size? d doc options).issues := by
  simp only [tilesetWith, graded_append]
  exact ⟨⟨graded_gridIssues, .ite graded_imageIssues graded_nil⟩, graded_wangSetsIssues⟩

/-! ### Maps -/

theorem graded_firstGidIssues {index : Nat} {previous : UInt32} {refs : List TilesetRef} :
    Graded (firstGidIssues label index previous refs) := by
  induction refs generalizing index previous with
  | nil => exact graded_nil
  | cons ref refs ih =>
      simp only [firstGidIssues, graded_append]
      exact ⟨.ite graded_singleton_new (.ite graded_singleton_new graded_nil), ih⟩

theorem graded_tileSizeIssues {m : TileMap} {doc : TilesetDocument} :
    Graded (tileSizeIssues label m doc) :=
  .ite graded_nil graded_singleton_new

theorem graded_gidIssues {l : LoadedMap} {gid : UInt32} : Graded (gidIssues location l gid) := by
  unfold gidIssues
  split
  · exact graded_singleton_new
  · split
    · exact graded_nil
    · exact .ite graded_nil graded_singleton_new

theorem graded_layerIssues {l : LoadedMap} {layer : Layer} :
    Graded (layerIssues label l layer) :=
  .flatMap fun _ _ => graded_gidIssues

/-- The findings about a map are as serious as their kinds. -/
theorem graded_map {l : LoadedMap} : Graded (map label l).issues := by
  simp only [map, graded_append]
  exact ⟨⟨graded_firstGidIssues, .flatMap fun _ _ => graded_tileSizeIssues⟩,
    .flatMap fun _ _ => graded_layerIssues⟩

end Check

namespace CommandLine

/-! ### Runs -/

variable {d : Disk} {options : Check.Options} {checked : Checked}

/-- The report on a tileset file is graded; a file checked before has an empty one. -/
theorem graded_checkTilesetFile {path : Path} {r : Report}
    (h : (checkTilesetFile d options checked path).1 = .ok r) : Graded r.issues := by
  unfold checkTilesetFile at h
  simp only at h
  split at h
  · cases h
    exact graded_nil
  · obtain ⟨doc, -, rfl⟩ := Fallible.map_eq_ok_iff.mp h
    exact Check.graded_tilesetWith

/-- The reports on a map's tilesets stay graded when they are merged. -/
theorem graded_checkDocuments {docs : List TilesetDocument} :
    Graded (checkDocuments d options checked docs).1.issues := by
  induction docs generalizing checked with
  | nil => exact graded_nil
  | cons doc docs ih =>
      simp only [checkDocuments]
      split
      · exact ih
      · exact graded_append.mpr ⟨Check.graded_tilesetWith, ih⟩

/-- The report on a map with its tilesets is graded. -/
theorem graded_checkMapFile {path : Path} {r : Report}
    (h : (checkMapFile d options checked path).1 = .ok r) : Graded r.issues := by
  unfold checkMapFile at h
  split at h
  · cases h
  · cases h
    exact graded_append.mpr ⟨Check.graded_map, graded_checkDocuments⟩

theorem graded_checkFile {path : Path} {r : Report}
    (h : (checkFile d options checked path).1 = .ok r) : Graded r.issues := by
  unfold checkFile at h
  split at h
  · exact graded_checkMapFile h
  · exact graded_checkTilesetFile h

/-- **Whatever a run reports is as serious as its kind.** -/
theorem graded_checkFiles (files : List Path) :
    Graded (allFindings (checkFiles d options checked files)).issues := by
  induction files generalizing checked with
  | nil => exact graded_nil
  | cons file files ih =>
      simp only [checkFiles, allFindings, List.flatMap_cons, graded_append]
      refine ⟨?_, ih⟩
      split
      · rename_i r hr
        exact graded_checkFile hr
      · exact graded_nil

end CommandLine

end TileAtlas
