/-
Checks of a tileset: its grid, its image file, and its Wang sets.

Each check lists its findings; the report has those of the grid first, then the one
about the image file, then those of the Wang sets in order.
-/

import TileAtlas.Document.Basic
import TileAtlas.Image
import TileAtlas.Report

namespace TileAtlas.Check

open Wang (WangSet)

/-- What to check besides the document itself. -/
structure Options where
  checkImages : Bool
  searchPaths : List Path
deriving DecidableEq, Repr, Inhabited

/-- The findings about the grid in an image of known size: the columns have to fit side
by side, and there must not be more tiles than places for them. -/
def sizeIssues (label : String) (t : Tileset) (image : SheetImage) : List Issue :=
  let columns := t.columnsFor image.width
  let rows := t.rowsFor image.height
  let capacity := min t.columns.toNat columns * rows
  (if columns < t.columns.toNat then
    [.new .imageTooSmall label
      s!"{t.columns} columns do not fit in the {image.width}px wide image (room for {columns})"]
  else []) ++
  (if capacity < t.tileCount.toNat then
    [.new .tileCountExceedsGrid label
      s!"tilecount {t.tileCount} exceeds the {capacity} tiles the {image.width}x{image.height} image holds"]
  else [])

def gridIssues (label : String) (t : Tileset) : List Issue :=
  if t.tileWidth = 0 ∨ t.tileHeight = 0 then
    [.new .invalidTileSize label s!"tile size {t.tileWidth}x{t.tileHeight} must be non-zero"]
  else
    match t.image with
    | none => []
    | some image =>
      if t.columns = 0 then
        [.new .missingColumns label s!"image '{image.source}' is set but columns is 0"]
      else if image.sizeUnknown then []
      else sizeIssues label t image

/-- A reader of image headers: the size that the bytes at a path give, if they give one. -/
abbrev ImageReader := Path → ByteArray → Option Image.Size

/-- The finding about an image file that is there. A file that cannot be read gives no size
either. -/
def imageFileIssues (size? : ImageReader) (d : Disk) (label : String) (image : SheetImage)
    (path : Path) : List Issue :=
  match (d.read path).toOption.bind (size? path) with
  | none =>
    [.new .imageUnreadable label s!"cannot read image {path.text}: no size in its header"]
  | some size =>
    if image.sizeUnknown || size == ⟨image.width.toNat, image.height.toNat⟩ then []
    else
      [.new .imageSizeMismatch label
        s!"image {path.text} is {size.width}x{size.height} but the tileset declares {image.width}x{image.height}"]

/-- The finding about the image file: the first place where there is a file counts. -/
def imageIssues (size? : ImageReader) (d : Disk) (label : String) (doc : TilesetDocument)
    (search : List Path) : List Issue :=
  match doc.tileset.image with
  | none => []
  | some image =>
    let candidates := doc.tileset.imageCandidates (doc.baseDir?.getD ⟨""⟩) search
    match candidates.find? d.isFile with
    | some path => imageFileIssues size? d label image path
    | none =>
      let places := Text.joinWith ", " (candidates.map (·.text))
      [.new .imageMissing label s!"image '{image.source}' not found (looked at {places})"]

def setTileIssues (location : String) (t : Tileset) (set : WangSet) : List Issue :=
  match set.tile with
  | some tile =>
    if t.containsTile tile then []
    else
      [.new .setTileOutOfRange location
        s!"representative tile {tile} is outside the tileset ({t.tileCount} tiles)"]
  | none => []

/-- The findings about one color, at its position counted from one. -/
def colorIssues (location : String) (t : Tileset) (position : Nat) (c : Wang.Color) : List Issue :=
  let name := c.label (Wang.shownIndex position)
  (if c.name = "" then [.new .unnamedColor location s!"color {name} has no name"] else []) ++
  (match c.tile with
    | some tile =>
      if t.containsTile tile then []
      else
        [.new .colorTileOutOfRange location
          s!"color {name} uses tile {tile} outside the tileset ({t.tileCount} tiles)"]
    | none => []) ++
  (if c.hasValidProbability then []
  else
    [.new .invalidProbability location
      s!"color {name} has invalid probability {c.probability.plain}"])

/-- The findings about one Wang tile, apart from repetition. -/
def wangTileIssues (location : String) (t : Tileset) (set : WangSet) (tile : Wang.Tile) :
    List Issue :=
  let count := set.colors.length
  let unknown := tile.wangId.colors.filter (fun c => count < c.toNat)
  let stray := tile.wangId.strayPositions set.setType
  (if t.containsTile tile.tileId then []
  else
    [.new .tileOutOfRange location s!"tile id is outside the tileset ({t.tileCount} tiles)"]) ++
  (if unknown.isEmpty then []
  else
    let list := Text.joinWith ", " (unknown.map (fun c => toString c.toNat))
    [.new .unknownColor location
      s!"wangid {tile.wangId.text} uses color {list} but only {count} colors are declared"]) ++
  (if stray.isEmpty then []
  else
    let list := Text.joinWith ", " (stray.map (·.name))
    [.new .inactivePosition location
      s!"{set.setType.name} set has colors on unused positions: {list}"]) ++
  (if set.setType.positions.all (fun p => tile.wangId.colorAt p == 0) then
    [.new .emptyWangId location "no color on any active position"]
  else [])

/-- The findings about the tiles of a set, given the tile ids already met. -/
def wangTilesIssues (location : String) (t : Tileset) (set : WangSet) :
    List UInt32 → List Wang.Tile → List Issue
  | _, [] => []
  | seen, tile :: tiles =>
    let tileLocation := s!"{location} tile {tile.tileId}"
    (if seen.contains tile.tileId then
      [.new .duplicateWangTile tileLocation "tile is listed more than once"]
    else []) ++
    wangTileIssues tileLocation t set tile ++
    wangTilesIssues location t set (tile.tileId :: seen) tiles

/-- The findings about colors that no tile carries. -/
def unusedColorIssues (location : String) (set : WangSet) : List Issue :=
  set.unusedColors.map fun c =>
    let name :=
      match set.color? c with
      | some color => color.label c.toNat
      | none => s!"#{c}"
    .new .unusedColor location s!"color {name} is not used by any tile"

def wangSetIssues (label : String) (t : Tileset) (set : WangSet) : List Issue :=
  let location := s!"{label}: wangset '{set.name}'"
  setTileIssues location t set ++
  (set.colors.zipIdx.flatMap fun (c, i) => colorIssues location t (i + 1) c) ++
  wangTilesIssues location t set [] set.tiles ++
  unusedColorIssues location set

/-- The findings about the Wang sets, given the set names already met. -/
def wangSetsIssues (label : String) (t : Tileset) : List String → List WangSet → List Issue
  | _, [] => []
  | seen, set :: sets =>
    (if seen.contains set.name then
      [.new .duplicateWangSet label s!"wang set name '{set.name}' is used more than once"]
    else []) ++
    wangSetIssues label t set ++
    wangSetsIssues label t (set.name :: seen) sets

/-- Check a tileset and its Wang sets, with a given reader of image headers. -/
def tilesetWith (size? : ImageReader) (d : Disk) (doc : TilesetDocument) (options : Options) :
    Report :=
  let label := doc.label
  ⟨gridIssues label doc.tileset ++
    (if options.checkImages then imageIssues size? d label doc options.searchPaths else []) ++
    wangSetsIssues label doc.tileset [] doc.wangSets⟩

def tileset (d : Disk) (doc : TilesetDocument) (options : Options) : Report :=
  tilesetWith Image.size? d doc options

end TileAtlas.Check
