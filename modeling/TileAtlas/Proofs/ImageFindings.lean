/-
What looking at the image file adds to the report about a tileset.

The findings about the grid and about the Wang sets are of other kinds than those about the
image file (`Check.isImageIssue_of_mem_gridIssues`, `Check.isImageIssue_of_mem_wangSetsIssues`),
so the latter can be told apart from the rest of the report
(`Check.filter_isImageIssue_tilesetWith`). There is at most one of them. It is decided by the
first of the image's places at which there is a file, and by what that file holds
(`Check.kinds_imageIssues_of_firstFile`, `Check.imageIssues_congr`).
-/

import TileAtlas.Proofs.WangFindings

namespace TileAtlas

open Report (kinds kinds_nil kinds_cons kinds_append)

/-- The size of the image in a file, if the file can be read and its header gives one to a
reader of headers. -/
def Disk.imageSize? (d : Disk) (size? : Check.ImageReader) (path : Path) : Option Image.Size :=
  (d.read path).toOption.bind (size? path)

/-- The first of some places at which there is a file. -/
def Disk.FirstFile (d : Disk) (places : List Path) (path : Path) : Prop :=
  ∃ before after, places = before ++ path :: after ∧ d.isFile path = true ∧
    ∀ q ∈ before, d.isFile q = false

namespace Disk

variable {d : Disk} {places more : List Path} {path : Path}

/-- The search stops at the first place that holds a file. -/
theorem find?_isFile_eq_some_iff :
    places.find? d.isFile = some path ↔ d.FirstFile places path := by
  rw [List.find?_eq_some_iff_append]
  constructor
  · rintro ⟨hfile, before, after, hplaces, hbefore⟩
    exact ⟨before, after, hplaces, hfile, by simpa using hbefore⟩
  · rintro ⟨before, after, hplaces, hfile, hbefore⟩
    exact ⟨hfile, before, after, hplaces, by simpa using hbefore⟩

theorem exists_firstFile (h : ∃ path ∈ places, d.isFile path = true) :
    ∃ path, d.FirstFile places path := by
  obtain ⟨path, hfind⟩ := Option.isSome_iff_exists.mp (List.find?_isSome.mpr h)
  exact ⟨path, find?_isFile_eq_some_iff.mp hfind⟩

/-- Places behind the first file are not looked at. -/
theorem FirstFile.append (h : d.FirstFile places path) (more : List Path) :
    d.FirstFile (places ++ more) path := by
  obtain ⟨before, after, rfl, hfile, hbefore⟩ := h
  exact ⟨before, after ++ more, by simp, hfile, hbefore⟩

end Disk

namespace Check

variable {size? : ImageReader} {d : Disk} {doc : TilesetDocument} {image : SheetImage}
  {search : List Path} {label : String} {path : Path} {i : Issue} {kind : IssueKind}

/-! ### Findings about the image file -/

def imageFileKinds : List IssueKind :=
  [.imageMissing, .imageUnreadable, .imageSizeMismatch]

def isImageIssue (i : Issue) : Bool :=
  imageFileKinds.contains i.kind

/-- The places of an image: below the directory of its tileset, then below each directory to
search. -/
def imagePlaces (doc : TilesetDocument) (image : SheetImage) (search : List Path) : List Path :=
  (doc.baseDir?.getD ⟨""⟩ :: search).map fun dir => dir.join image.source

theorem imagePlaces_append (doc : TilesetDocument) (image : SheetImage) (search more : List Path) :
    imagePlaces doc image (search ++ more) =
      imagePlaces doc image search ++ more.map fun dir => dir.join image.source := by
  simp [imagePlaces]

/-- The places the program tries, as the places of the image in order. -/
theorem imageCandidates_eq (himage : doc.tileset.image = some image) (search : List Path) :
    doc.tileset.imageCandidates (doc.baseDir?.getD ⟨""⟩) search = imagePlaces doc image search := by
  simp only [Tileset.imageCandidates, himage, imagePlaces]

/-- Without an image there is nothing to find. -/
theorem imageIssues_eq_nil (himage : doc.tileset.image = none) :
    imageIssues size? d label doc search = [] := by
  simp only [imageIssues, himage]

/-- An image found nowhere is reported missing, and nothing else is said about it. -/
theorem kinds_imageIssues_of_missing (himage : doc.tileset.image = some image)
    (hnone : ∀ path ∈ imagePlaces doc image search, d.isFile path = false) :
    kinds (imageIssues size? d label doc search) = [.imageMissing] := by
  have hfind : (imagePlaces doc image search).find? d.isFile = none := by
    simpa using hnone
  rw [kinds_imageIssues himage, imageCandidates_eq himage, Disk.findSome?_imageAt?, hfind]
  rfl

/-- The first file decides what is found. -/
theorem kinds_imageIssues_of_firstFile (himage : doc.tileset.image = some image)
    (hfirst : d.FirstFile (imagePlaces doc image search) path) :
    kinds (imageIssues size? d label doc search) =
      imageKinds image (some (d.imageSize? size? path)) := by
  obtain ⟨-, -, -, hfile, -⟩ := id hfirst
  have hat : d.imageAt? size? path = some (d.imageSize? size? path) := if_pos hfile
  rw [kinds_imageIssues himage, imageCandidates_eq himage, Disk.findSome?_imageAt?,
    Disk.find?_isFile_eq_some_iff.mpr hfirst, Option.bind_some, hat]

/-- Missing means: no file at any of the places, readable or not. -/
theorem imageMissing_mem_iff (himage : doc.tileset.image = some image) :
    .imageMissing ∈ kinds (imageIssues size? d label doc search) ↔
      ∀ path ∈ imagePlaces doc image search, d.isFile path = false := by
  by_cases hfile : ∃ path ∈ imagePlaces doc image search, d.isFile path = true
  · obtain ⟨path, hfirst⟩ := Disk.exists_firstFile hfile
    have hfound : .imageMissing ∉ imageKinds image (some (d.imageSize? size? path)) := by
      unfold imageKinds
      split <;> simp_all
    rw [kinds_imageIssues_of_firstFile himage hfirst]
    refine iff_of_false hfound ?_
    obtain ⟨path, hmem, htrue⟩ := hfile
    exact fun hnone => absurd htrue (by simp [hnone path hmem])
  · have hnone : ∀ path ∈ imagePlaces doc image search, d.isFile path = false := by
      simpa using hfile
    rw [kinds_imageIssues_of_missing himage hnone]
    exact iff_of_true List.mem_cons_self hnone

/-- Unreadable means: the first file found gives no size, whether it cannot be opened or its
header cannot be read. -/
theorem imageUnreadable_mem_iff (himage : doc.tileset.image = some image)
    (hfirst : d.FirstFile (imagePlaces doc image search) path) :
    .imageUnreadable ∈ kinds (imageIssues size? d label doc search) ↔
      d.imageSize? size? path = none := by
  rw [kinds_imageIssues_of_firstFile himage hfirst]
  cases d.imageSize? size? path with
  | none => simp [imageKinds]
  | some size => simp [imageKinds]

/-- A mismatch needs a size in the file and a declared one that differs from it. -/
theorem imageSizeMismatch_mem_iff (himage : doc.tileset.image = some image)
    (hfirst : d.FirstFile (imagePlaces doc image search) path) :
    .imageSizeMismatch ∈ kinds (imageIssues size? d label doc search) ↔
      ∃ size, d.imageSize? size? path = some size ∧ ¬ (image.width = 0 ∧ image.height = 0) ∧
        size ≠ ⟨image.width.toNat, image.height.toNat⟩ := by
  rw [kinds_imageIssues_of_firstFile himage hfirst]
  cases d.imageSize? size? path with
  | none => simp [imageKinds]
  | some size => simp [imageKinds, SheetImage.sizeUnknown]

/-- Where the first file is at the same place and holds the same, the finding is the same. -/
theorem imageIssues_congr {d' : Disk} {search' : List Path}
    (himage : doc.tileset.image = some image)
    (hfirst : d.FirstFile (imagePlaces doc image search) path)
    (hfirst' : d'.FirstFile (imagePlaces doc image search') path)
    (hread : d'.read path = d.read path) :
    imageIssues size? d' label doc search' = imageIssues size? d label doc search := by
  simp only [imageIssues, himage, imageCandidates_eq himage,
    Disk.find?_isFile_eq_some_iff.mpr hfirst, Disk.find?_isFile_eq_some_iff.mpr hfirst',
    imageFileIssues, hread]

/-- What is found about an image, if anything. -/
theorem imageKinds_cases (image : SheetImage) (found : Option (Option Image.Size)) :
    imageKinds image found = [] ∨ ∃ kind ∈ imageFileKinds, imageKinds image found = [kind] := by
  unfold imageKinds
  split
  · exact .inr ⟨_, by decide, rfl⟩
  · exact .inr ⟨_, by decide, rfl⟩
  · split
    · exact .inl rfl
    · exact .inr ⟨_, by decide, rfl⟩

/-- At most one thing is wrong with an image. -/
theorem kinds_imageIssues_cases (size? : ImageReader) (d : Disk) (label : String)
    (doc : TilesetDocument) (search : List Path) :
    kinds (imageIssues size? d label doc search) = [] ∨
      ∃ kind ∈ imageFileKinds, kinds (imageIssues size? d label doc search) = [kind] := by
  cases himage : doc.tileset.image with
  | none => exact .inl (by rw [imageIssues_eq_nil himage, kinds_nil])
  | some image =>
      rw [kinds_imageIssues himage]
      exact imageKinds_cases image _

theorem length_imageIssues_le (size? : ImageReader) (d : Disk) (label : String)
    (doc : TilesetDocument) (search : List Path) :
    (imageIssues size? d label doc search).length ≤ 1 := by
  have hlength : (imageIssues size? d label doc search).length =
      (kinds (imageIssues size? d label doc search)).length := by rw [kinds, List.length_map]
  rcases kinds_imageIssues_cases size? d label doc search with hkinds | ⟨kind, -, hkinds⟩
  · simp [hlength, hkinds]
  · simp [hlength, hkinds]

/-- What the image check reports counts as a finding about the image. -/
theorem isImageIssue_of_mem_imageIssues (h : i ∈ imageIssues size? d label doc search) :
    isImageIssue i = true := by
  have hkind : i.kind ∈ kinds (imageIssues size? d label doc search) := List.mem_map_of_mem h
  rcases kinds_imageIssues_cases size? d label doc search with hkinds | ⟨kind, hmem, hkinds⟩
  · rw [hkinds] at hkind
    cases hkind
  · rw [hkinds, List.mem_singleton] at hkind
    rw [isImageIssue, hkind]
    exact List.contains_iff_mem.mpr hmem

/-! ### The other findings -/

theorem isImageIssue_of_mem_gridIssues {t : Tileset} (h : i ∈ gridIssues label t) :
    isImageIssue i = false := by
  have hother : ∀ kind ∈ gridKinds, imageFileKinds.contains kind = false := by decide
  exact hother i.kind (kind_mem_of_mem_gridIssues h)

theorem isImageIssue_of_mem_wangSetsIssues {t : Tileset} {seen : List String}
    {sets : List Wang.WangSet} (h : i ∈ wangSetsIssues label t seen sets) :
    isImageIssue i = false := by
  have hnone : ∀ kind ∈ imageFileKinds,
      (kinds (wangSetsIssues label t seen sets)).count kind = 0 := by
    intro kind hkind
    rw [count_wangSetsIssues]
    simp only [imageFileKinds, List.mem_cons, List.not_mem_nil, or_false] at hkind
    rcases hkind with rfl | rfl | rfl <;> simp [defects, colorDefect, tileDefect]
  rw [← Bool.not_eq_true, isImageIssue, List.contains_iff_mem]
  intro hkind
  exact List.count_eq_zero.mp (hnone i.kind hkind) (List.mem_map_of_mem h)

/-! ### The whole report -/

/-- The findings about the image file are those of an image kind. -/
theorem filter_isImageIssue_tilesetWith (size? : ImageReader) (d : Disk) (doc : TilesetDocument)
    (search : List Path) :
    (tilesetWith size? d doc ⟨true, search⟩).issues.filter isImageIssue =
      imageIssues size? d doc.label doc search := by
  have hgrid : (gridIssues doc.label doc.tileset).filter isImageIssue = [] :=
    List.filter_eq_nil_iff.mpr fun i hi => by simp [isImageIssue_of_mem_gridIssues hi]
  have hsets : (wangSetsIssues doc.label doc.tileset [] doc.wangSets).filter isImageIssue = [] :=
    List.filter_eq_nil_iff.mpr fun i hi => by simp [isImageIssue_of_mem_wangSetsIssues hi]
  have himage : (imageIssues size? d doc.label doc search).filter isImageIssue =
      imageIssues size? d doc.label doc search :=
    List.filter_eq_self.mpr fun i hi => isImageIssue_of_mem_imageIssues hi
  simp only [tilesetWith, if_true, List.filter_append, hgrid, hsets, himage, List.nil_append,
    List.append_nil]

/-- The other findings are those that are made without looking at the image file. -/
theorem filter_not_isImageIssue_tilesetWith (size? : ImageReader) (d : Disk)
    (doc : TilesetDocument) (search : List Path) :
    (tilesetWith size? d doc ⟨true, search⟩).issues.filter (fun i => !isImageIssue i) =
      (tilesetWith size? d doc ⟨false, search⟩).issues := by
  have hgrid : (gridIssues doc.label doc.tileset).filter (fun i => !isImageIssue i) =
      gridIssues doc.label doc.tileset :=
    List.filter_eq_self.mpr fun i hi => by simp [isImageIssue_of_mem_gridIssues hi]
  have hsets : (wangSetsIssues doc.label doc.tileset [] doc.wangSets).filter
      (fun i => !isImageIssue i) = wangSetsIssues doc.label doc.tileset [] doc.wangSets :=
    List.filter_eq_self.mpr fun i hi => by simp [isImageIssue_of_mem_wangSetsIssues hi]
  have himage : (imageIssues size? d doc.label doc search).filter (fun i => !isImageIssue i) = [] :=
    List.filter_eq_nil_iff.mpr fun i hi => by simp [isImageIssue_of_mem_imageIssues hi]
  simp only [tilesetWith, if_true, List.filter_append, hgrid, hsets, himage, Bool.false_eq_true,
    if_false]

/-- A finding of an image kind is in the report exactly if it is made about the image file. -/
theorem has_tilesetWith_iff (hkind : kind ∈ imageFileKinds) :
    (tilesetWith size? d doc ⟨true, search⟩).has kind = true ↔
      kind ∈ kinds (imageIssues size? d doc.label doc search) := by
  rw [← filter_isImageIssue_tilesetWith, Report.has, List.any_eq_true]
  simp only [kinds, List.mem_map, List.mem_filter, beq_iff_eq]
  constructor
  · rintro ⟨i, hi, rfl⟩
    exact ⟨i, ⟨hi, List.contains_iff_mem.mpr hkind⟩, rfl⟩
  · rintro ⟨i, ⟨hi, -⟩, rfl⟩
    exact ⟨i, hi, rfl⟩

/-- Only the bytes of the first file matter: any disk that holds them there gives the same
report. -/
theorem tilesetWith_congr {d' : Disk} {search' : List Path}
    (himage : doc.tileset.image = some image)
    (hfirst : d.FirstFile (imagePlaces doc image search) path)
    (hfirst' : d'.FirstFile (imagePlaces doc image search') path)
    (hread : d'.read path = d.read path) :
    tilesetWith size? d' doc ⟨true, search'⟩ = tilesetWith size? d doc ⟨true, search⟩ := by
  simp only [tilesetWith, if_true, imageIssues_congr himage hfirst hfirst' hread]

/-- Places behind the first file do not matter. -/
theorem tilesetWith_eq_of_behind (himage : doc.tileset.image = some image)
    (hfile : ∃ path ∈ imagePlaces doc image search, d.isFile path = true)
    (more rest : List Path) :
    tilesetWith size? d doc ⟨true, search ++ more ++ rest⟩ =
      tilesetWith size? d doc ⟨true, search ++ rest⟩ := by
  obtain ⟨path, hfirst⟩ := Disk.exists_firstFile hfile
  have hbehind : ∀ dirs, d.FirstFile (imagePlaces doc image (search ++ dirs)) path := by
    intro dirs
    rw [imagePlaces_append]
    exact hfirst.append _
  rw [List.append_assoc]
  exact tilesetWith_congr himage (hbehind rest) (hbehind (more ++ rest)) rfl

/-- **Looking at image files adds at most one finding**, and leaves the others and their order
as they are, whatever reader is used for their headers. It is made only where an image is
declared. The image is missing exactly if there is no file at any of its places. Otherwise
the first file decides, whether or not it can be opened: it is unreadable exactly if it gives
no size, and its size is wrong exactly if another one than zero by zero is declared and
differs. Nothing else matters: the report is the same wherever the first file is at that
place and holds the same, and whatever directories are searched after it. -/
theorem image_findings (size? : ImageReader) (d : Disk) (doc : TilesetDocument)
    (search : List Path) :
    (tilesetWith size? d doc ⟨true, search⟩).issues.filter (fun i => !isImageIssue i) =
        (tilesetWith size? d doc ⟨false, search⟩).issues ∧
      ((tilesetWith size? d doc ⟨true, search⟩).issues.filter isImageIssue).length ≤ 1 ∧
      (doc.tileset.image = none →
        (tilesetWith size? d doc ⟨true, search⟩).issues.filter isImageIssue = []) ∧
      ∀ image, doc.tileset.image = some image →
        ((tilesetWith size? d doc ⟨true, search⟩).has .imageMissing = true ↔
          ∀ path ∈ imagePlaces doc image search, d.isFile path = false) ∧
        (∀ path, d.FirstFile (imagePlaces doc image search) path →
          ((tilesetWith size? d doc ⟨true, search⟩).has .imageUnreadable = true ↔
            d.imageSize? size? path = none) ∧
          ((tilesetWith size? d doc ⟨true, search⟩).has .imageSizeMismatch = true ↔
            ∃ size, d.imageSize? size? path = some size ∧
              ¬ (image.width = 0 ∧ image.height = 0) ∧
              size ≠ ⟨image.width.toNat, image.height.toNat⟩) ∧
          ∀ (d' : Disk) (search' : List Path),
            d'.FirstFile (imagePlaces doc image search') path → d'.read path = d.read path →
              tilesetWith size? d' doc ⟨true, search'⟩ =
                tilesetWith size? d doc ⟨true, search⟩) ∧
        ((∃ path ∈ imagePlaces doc image search, d.isFile path = true) →
          ∀ more rest, tilesetWith size? d doc ⟨true, search ++ more ++ rest⟩ =
            tilesetWith size? d doc ⟨true, search ++ rest⟩) := by
  refine ⟨filter_not_isImageIssue_tilesetWith size? d doc search, ?_, ?_, ?_⟩
  · rw [filter_isImageIssue_tilesetWith]
    exact length_imageIssues_le size? d doc.label doc search
  · intro himage
    rw [filter_isImageIssue_tilesetWith, imageIssues_eq_nil himage]
  · intro image himage
    refine ⟨?_, ?_, tilesetWith_eq_of_behind himage⟩
    · rw [has_tilesetWith_iff (by decide), imageMissing_mem_iff himage]
    · intro path hfirst
      rw [has_tilesetWith_iff (by decide), has_tilesetWith_iff (by decide)]
      exact ⟨imageUnreadable_mem_iff himage hfirst, imageSizeMismatch_mem_iff himage hfirst,
        fun d' search' hfirst' hread => tilesetWith_congr himage hfirst hfirst' hread⟩

/-- A tileset with an image that is declared wider than high. -/
def mural : TilesetDocument where
  path := some ⟨"sets/mural.tsx"⟩
  tileset := { Tileset.empty with image := some ⟨"mural.gif", 3, 2, none⟩ }
  wangSets := []

/-- A file system with one file in it, which may or may not be one that can be read. -/
def muralDisk (bytes : Except Disk.Error ByteArray) : Disk where
  find path := if path = ⟨"pics/mural.gif"⟩ then .ok ⟨path, .file bytes⟩ else .error .notFound

def muralBytes : ByteArray :=
  ⟨#[71, 73, 70, 56, 57, 97, 2, 0, 3, 0, 0, 0, 0, 44, 0]⟩

theorem firstFile_mural (bytes : Except Disk.Error ByteArray) :
    (muralDisk bytes).FirstFile (imagePlaces mural ⟨"mural.gif", 3, 2, none⟩ [⟨"pics"⟩])
      ⟨"pics/mural.gif"⟩ := by
  have hplaces : imagePlaces mural ⟨"mural.gif", 3, 2, none⟩ [⟨"pics"⟩] =
      [⟨"sets/mural.gif"⟩, ⟨"pics/mural.gif"⟩] := by decide +kernel
  refine ⟨[⟨"sets/mural.gif"⟩], [], hplaces, by simp [Disk.isFile, muralDisk], ?_⟩
  simp [Disk.isFile, muralDisk]

/-- The image is not beside the tileset but in a directory to search. If it can be read, it has
another size, and one more directory changes nothing. If not, it is unreadable and not
missing. -/
theorem mural_findings :
    (tileset (muralDisk (.ok muralBytes)) mural ⟨true, [⟨"pics"⟩]⟩).has .imageSizeMismatch = true ∧
      tileset (muralDisk (.ok muralBytes)) mural ⟨true, [⟨"pics"⟩, ⟨"attic"⟩]⟩ =
        tileset (muralDisk (.ok muralBytes)) mural ⟨true, [⟨"pics"⟩]⟩ ∧
      (tileset (muralDisk (.error .denied)) mural ⟨true, [⟨"pics"⟩]⟩).has .imageUnreadable =
        true := by
  obtain ⟨-, -, -, hread⟩ :=
    image_findings Image.size? (muralDisk (.ok muralBytes)) mural [⟨"pics"⟩]
  obtain ⟨-, -, -, hdenied⟩ :=
    image_findings Image.size? (muralDisk (.error .denied)) mural [⟨"pics"⟩]
  obtain ⟨-, hfirst, hbehind⟩ := hread ⟨"mural.gif", 3, 2, none⟩ rfl
  obtain ⟨-, hfirst', -⟩ := hdenied ⟨"mural.gif", 3, 2, none⟩ rfl
  have hsize : (muralDisk (.ok muralBytes)).imageSize? Image.size? ⟨"pics/mural.gif"⟩ =
      some ⟨2, 3⟩ := by decide +kernel
  obtain ⟨-, hmismatch, -⟩ := hfirst ⟨"pics/mural.gif"⟩ (firstFile_mural _)
  obtain ⟨hunreadable, -⟩ := hfirst' ⟨"pics/mural.gif"⟩ (firstFile_mural _)
  obtain ⟨before, after, hplaces, hfile, -⟩ := firstFile_mural (.ok muralBytes)
  refine ⟨hmismatch.mpr ⟨⟨2, 3⟩, hsize, by decide, by decide⟩, ?_, hunreadable.mpr ?_⟩
  · exact hbehind ⟨⟨"pics/mural.gif"⟩, by simp [hplaces], hfile⟩ [⟨"attic"⟩] []
  · simp [Disk.imageSize?, Disk.read, muralDisk, Except.toOption]

end Check

end TileAtlas
