/-
What the findings about a tileset depend on.

The place of a tileset's file enters its findings in two ways. It is the label that
locations and messages are made of, which no kind of finding depends on; and the image
is looked for beside it. So two places of one tileset that see the same images get
findings of the same kinds: `Check.kinds_tilesetWith_congr`.
-/

import TileAtlas.Proofs.Severities

namespace TileAtlas

open Report (kinds kinds_nil kinds_cons kinds_append severities)

/-- The image at a path: none where there is no file, and one without a size where the
file cannot be read or does not give it. -/
def Disk.imageAt? (d : Disk) (size? : Check.ImageReader) (path : Path) :
    Option (Option Image.Size) :=
  if d.isFile path then some ((d.read path).toOption.bind (size? path)) else none

/-- The first image along a list of places is the one at the first file. -/
theorem Disk.findSome?_imageAt? (d : Disk) (size? : Check.ImageReader) (paths : List Path) :
    paths.findSome? (d.imageAt? size?) = (paths.find? d.isFile).bind (d.imageAt? size?) := by
  induction paths with
  | nil => rfl
  | cons path paths ih =>
      cases hfile : d.isFile path with
      | false =>
          have hnone : d.imageAt? size? path = none := by
            simp only [imageAt?, hfile, Bool.false_eq_true, if_false]
          rw [List.findSome?_cons, List.find?_cons, hnone, hfile, ih]
      | true =>
          obtain ⟨size, hsome⟩ : ∃ size, d.imageAt? size? path = some size := ⟨_, if_pos hfile⟩
          rw [List.findSome?_cons, List.find?_cons, hfile, hsome, Option.bind_some, hsome]

namespace Check

/-! ### Labels -/

theorem kinds_flatMap_congr {α : Type} {f g : α → List Issue}
    (h : ∀ a, kinds (f a) = kinds (g a)) (as : List α) :
    kinds (as.flatMap f) = kinds (as.flatMap g) := by
  unfold kinds at h ⊢
  simp only [List.map_flatMap, h]

/-- The label of a tileset shows in the texts of the findings only, not in their kinds. -/
theorem kinds_gridIssues (label label' : String) (t : Tileset) :
    kinds (gridIssues label t) = kinds (gridIssues label' t) := by
  unfold gridIssues sizeIssues
  cases t.image with
  | none => simp only [apply_ite kinds, kinds_cons, Issue.kind_new]
  | some image => simp only [apply_ite kinds, kinds_append, kinds_cons, Issue.kind_new]

theorem kinds_setTileIssues (location location' : String) (t : Tileset) (set : Wang.WangSet) :
    kinds (setTileIssues location t set) = kinds (setTileIssues location' t set) := by
  unfold setTileIssues
  cases set.tile with
  | none => rfl
  | some tile => simp only [apply_ite kinds, kinds_cons, Issue.kind_new]

theorem kinds_colorIssues (location location' : String) (t : Tileset) (position : Nat)
    (c : Wang.Color) :
    kinds (colorIssues location t position c) = kinds (colorIssues location' t position c) := by
  unfold colorIssues
  cases c.tile with
  | none => simp only [apply_ite kinds, kinds_append, kinds_cons, Issue.kind_new]
  | some tile => simp only [apply_ite kinds, kinds_append, kinds_cons, Issue.kind_new]

theorem kinds_wangTileIssues (location location' : String) (t : Tileset) (set : Wang.WangSet)
    (tile : Wang.Tile) :
    kinds (wangTileIssues location t set tile) = kinds (wangTileIssues location' t set tile) := by
  unfold wangTileIssues
  simp only [apply_ite kinds, kinds_append, kinds_cons, Issue.kind_new]

theorem kinds_wangTilesIssues (location location' : String) (t : Tileset) (set : Wang.WangSet)
    (seen : List UInt32) (tiles : List Wang.Tile) :
    kinds (wangTilesIssues location t set seen tiles) =
      kinds (wangTilesIssues location' t set seen tiles) := by
  induction tiles generalizing seen with
  | nil => rfl
  | cons tile tiles ih =>
      simp only [wangTilesIssues, kinds_append, apply_ite kinds, kinds_cons, Issue.kind_new, ih]
      rw [kinds_wangTileIssues]

theorem kinds_unusedColorIssues (location location' : String) (set : Wang.WangSet) :
    kinds (unusedColorIssues location set) = kinds (unusedColorIssues location' set) := by
  unfold unusedColorIssues kinds
  rw [List.map_map, List.map_map]
  rfl

theorem kinds_wangSetIssues (label label' : String) (t : Tileset) (set : Wang.WangSet) :
    kinds (wangSetIssues label t set) = kinds (wangSetIssues label' t set) := by
  unfold wangSetIssues
  extract_lets location location'
  simp only [kinds_append]
  rw [kinds_setTileIssues location location', kinds_wangTilesIssues location location',
    kinds_unusedColorIssues location location']
  congr 3
  apply kinds_flatMap_congr
  rintro ⟨c, i⟩
  exact kinds_colorIssues location location' t (i + 1) c

/-- The label does not matter for the kinds of the findings in all Wang sets together. -/
theorem kinds_wangSetsIssues (label label' : String) (t : Tileset) (seen : List String)
    (sets : List Wang.WangSet) :
    kinds (wangSetsIssues label t seen sets) = kinds (wangSetsIssues label' t seen sets) := by
  induction sets generalizing seen with
  | nil => rfl
  | cons set sets ih =>
      simp only [wangSetsIssues, kinds_append, apply_ite kinds, kinds_cons, Issue.kind_new, ih]
      rw [kinds_wangSetIssues]

/-! ### Images -/

variable {size? : ImageReader} {d : Disk}

/-- The findings about an image of which a size may be known, or which may be missing. -/
def imageKinds (image : SheetImage) : Option (Option Image.Size) → List IssueKind
  | none => [.imageMissing]
  | some none => [.imageUnreadable]
  | some (some size) =>
    if image.sizeUnknown || size == ⟨image.width.toNat, image.height.toNat⟩ then []
    else [.imageSizeMismatch]

/-- Once the image is a file, the kinds depend on what its header says and nothing else. -/
theorem kinds_imageFileIssues {path : Path} (hfile : d.isFile path = true)
    (label : String) (image : SheetImage) :
    kinds (imageFileIssues size? d label image path) =
      imageKinds image (d.imageAt? size? path) := by
  unfold imageFileIssues Disk.imageAt?
  rw [if_pos hfile]
  cases (d.read path).toOption.bind (size? path) with
  | none => rfl
  | some size => simp only [imageKinds, apply_ite kinds, kinds_nil, kinds_cons, Issue.kind_new]

/-- The finding about an image depends on the first one there is among its places. -/
theorem kinds_imageIssues {label : String} {doc : TilesetDocument}
    {search : List Path} {image : SheetImage} (himage : doc.tileset.image = some image) :
    kinds (imageIssues size? d label doc search) =
      imageKinds image ((doc.tileset.imageCandidates (doc.baseDir?.getD ⟨""⟩) search).findSome?
        (d.imageAt? size?)) := by
  unfold imageIssues
  simp only [himage, Disk.findSome?_imageAt?]
  cases hfind : (doc.tileset.imageCandidates (doc.baseDir?.getD ⟨""⟩) search).find? d.isFile with
  | none => rfl
  | some path => exact kinds_imageFileIssues (List.find?_some hfind) label image

/-- A tileset that sees the same images from two places. -/
def SeesSameImages (size? : ImageReader) (d : Disk) (doc doc' : TilesetDocument) : Prop :=
  ∀ source : Path, d.imageAt? size? ((doc.baseDir?.getD ⟨""⟩).join source) =
    d.imageAt? size? ((doc'.baseDir?.getD ⟨""⟩).join source)

/-- Documents that see the same images have the same kinds of findings about them. -/
theorem kinds_imageIssues_congr {doc doc' : TilesetDocument}
    (himages : SeesSameImages size? d doc doc') (htileset : doc.tileset = doc'.tileset)
    (label label' : String) (search : List Path) :
    kinds (imageIssues size? d label doc search) =
      kinds (imageIssues size? d label' doc' search) := by
  cases himage : doc'.tileset.image with
  | none =>
      unfold imageIssues
      simp only [htileset, himage]
  | some image =>
      rw [kinds_imageIssues himage, kinds_imageIssues (htileset ▸ himage), htileset]
      unfold Tileset.imageCandidates
      simp only [himage, List.map_cons, List.findSome?_cons]
      rw [himages ⟨image.source⟩]

/-! ### The whole report -/

/-- **Findings are about the tileset, not about its path.** Documents with the same
tileset and Wang sets that see the same images have findings of the same kinds. -/
theorem kinds_tilesetWith_congr {doc doc' : TilesetDocument}
    (himages : SeesSameImages size? d doc doc') (htileset : doc.tileset = doc'.tileset)
    (hwangSets : doc.wangSets = doc'.wangSets) (options : Options) :
    kinds (tilesetWith size? d doc options).issues =
      kinds (tilesetWith size? d doc' options).issues := by
  unfold tilesetWith
  simp only [kinds_append, apply_ite kinds]
  rw [kinds_imageIssues_congr himages htileset doc.label doc'.label, htileset, hwangSets,
    kinds_gridIssues doc.label doc'.label, kinds_wangSetsIssues doc.label doc'.label]

/-- Their findings are as serious, too. -/
theorem severities_tilesetWith_congr {doc doc' : TilesetDocument}
    (himages : SeesSameImages size? d doc doc') (htileset : doc.tileset = doc'.tileset)
    (hwangSets : doc.wangSets = doc'.wangSets) (options : Options) :
    severities (tilesetWith size? d doc options).issues =
      severities (tilesetWith size? d doc' options).issues := by
  rw [graded_tilesetWith.severities_eq, graded_tilesetWith.severities_eq,
    kinds_tilesetWith_congr himages htileset hwangSets options]

end Check

end TileAtlas
