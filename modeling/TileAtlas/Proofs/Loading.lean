/-
Loading tilesets and maps from files.

What a tileset file gives depends on its text alone, apart from the path that is noted in
the document (`Disk.loadTileset_eq`). The reader of a map lists the tileset references and,
beside them, the Wang sets that are written with each. The two lists grow together
(`Document.readMapNode_aligned`), so no reference is lost when they are put side by side,
and a loaded map has one document for each reference, in the same place
(`Disk.loadReference_of_loadMapWithTilesets`).
-/

import TileAtlas.Document.Load
import TileAtlas.Proofs.Fallible

namespace TileAtlas

open Fallible

/-! ### Text files -/

/-- A text is read back from its UTF-8 bytes. -/
theorem fromUTF8?_toUTF8 (text : String) : String.fromUTF8? text.toUTF8 = some text :=
  dif_pos text.isValidUTF8

namespace Disk

/-- A snapshot of a few text files: paths, the places they lead to, and the texts there. -/
def ofTexts (files : List (Path × Path × String)) : Disk where
  find p :=
    match files.lookup p with
    | some (place, text) => .ok ⟨place, .file (.ok text.toUTF8)⟩
    | none => .error .notFound

theorem find_ofTexts {files : List (Path × Path × String)} {p place : Path} {text : String}
    (h : files.lookup p = some (place, text)) :
    (ofTexts files).find p = .ok ⟨place, .file (.ok text.toUTF8)⟩ := by
  simp only [ofTexts, h]

theorem document_ofTexts {files : List (Path × Path × String)} {p place : Path} {text : String}
    (h : files.lookup p = some (place, text)) : (ofTexts files).document p = .ok text := by
  simp only [document, readText, read, find_ofTexts h, Except.bind, fromUTF8?_toUTF8]

end Disk

/-- The element of a text, read from its characters. -/
theorem Document.parseElement_of_toList (text : String) {cs : List Char} (h : text.toList = cs) :
    parseElement text =
      match ((Markup.afterDeclaration? ((Markup.after? "\uFEFF" cs).getD cs)).bind fun rest =>
          Markup.tokens? rest.length rest).bind Markup.Element.ofTokens? with
      | some e => .ok e
      | none => .error .malformed := by
  subst h
  rfl

/-! ### Tileset files -/

/-- Loading a tileset is opening, parsing and noting the path, in this order. -/
theorem Disk.loadTileset_eq (d : Disk) (path : Path) :
    d.loadTileset path =
      (d.document path).bind fun text =>
        (parseTileset text).map fun doc => { doc with path := some path } := by
  unfold loadTileset
  cases d.document path with
  | error e => rfl
  | ok text =>
      simp only [bind, Except.bind]
      cases parseTileset text with
      | error e => rfl
      | ok doc => rfl

theorem Disk.loadTileset_ofTexts {files : List (Path × Path × String)} {p place : Path}
    {text : String} {doc : TilesetDocument} (h : files.lookup p = some (place, text))
    (hparse : parseTileset text = .ok doc) :
    (ofTexts files).loadTileset p = .ok { doc with path := some p } := by
  rw [loadTileset_eq, document_ofTexts h]
  exact map_eq_ok_iff.mpr ⟨doc, hparse, rfl⟩

/-- A loaded tileset knows the path it was loaded from. -/
theorem Disk.path_of_loadTileset {d : Disk} {path : Path} {doc : TilesetDocument}
    (hload : d.loadTileset path = .ok doc) : doc.path = some path := by
  rw [loadTileset_eq] at hload
  obtain ⟨text, -, hparse⟩ := bind_eq_ok_iff.mp hload
  obtain ⟨parsed, -, rfl⟩ := map_eq_ok_iff.mp hparse
  rfl

namespace Document

/-! ### References and Wang sets grow together -/

/-- There is one list of Wang sets for each tileset reference. -/
def MapDocument.Aligned (m : MapDocument) : Prop :=
  m.wangSets.length = m.map.tilesets.length

/-- The attributes of a map make one without references and layers. -/
theorem MapHead.eq_blank_of_toMap {h : MapHead} {map : TileMap} (hmap : h.toMap = .ok map) :
    ∃ width height tileWidth tileHeight, map = TileMap.blank width height tileWidth tileHeight := by
  unfold MapHead.toMap at hmap
  simp only [bind_eq_ok_iff] at hmap
  obtain ⟨width, -, height, -, hmap⟩ := hmap
  split at hmap
  · cases hmap
  · simp only [bind_eq_ok_iff] at hmap
    obtain ⟨tileWidth, -, tileHeight, -, hmap⟩ := hmap
    cases hmap
    exact ⟨width, height, tileWidth, tileHeight, rfl⟩

/-- One node adds as many Wang set lists as tilesets, so the two lists stay in step. -/
theorem readMapNode_aligned {dir : Path} {m m' : MapDocument} {n : Markup.Node}
    (hm : m.Aligned) (hread : readMapNode dir m n = .ok m') : m'.Aligned := by
  unfold readMapNode at hread
  split at hread
  · cases hread
    exact hm
  · split at hread
    · obtain ⟨⟨ref, sets⟩, -, rfl⟩ := map_eq_ok_iff.mp hread
      unfold MapDocument.Aligned at hm ⊢
      rw [List.length_append, List.length_append, hm]
      rfl
    · obtain ⟨layers, -, rfl⟩ := map_eq_ok_iff.mp hread
      exact hm

/-- In a map document each tileset has its own list of Wang sets. -/
theorem readMapDocument_aligned {dir : Path} {e : Markup.Element} {m : MapDocument}
    (hread : readMapDocument dir e = .ok m) : m.Aligned := by
  unfold readMapDocument at hread
  split at hread
  · simp only [bind_eq_ok_iff] at hread
    obtain ⟨head, -, map, hmap, hnodes⟩ := hread
    obtain ⟨width, height, tileWidth, tileHeight, rfl⟩ := MapHead.eq_blank_of_toMap hmap
    have hblank : MapDocument.Aligned ⟨TileMap.blank width height tileWidth tileHeight, []⟩ := rfl
    exact invariant_of_foldlM_eq_ok MapDocument.Aligned
      (fun _ _ _ hm hstep => readMapNode_aligned hm hstep) hblank hnodes
  · cases hread

end Document

namespace Disk

/-! ### One document for each reference -/

/-- A map on a disk of texts is loaded if its text parses and its references load. -/
theorem loadMapWithTilesets_ofTexts {files : List (Path × Path × String)} {p place : Path}
    {text : String} {m : Document.MapDocument} {tilesets : List TilesetDocument}
    (h : files.lookup p = some (place, text)) (hparse : parseMapDocument text p.directory = .ok m)
    (hdocs : List.Forall₂ (fun ref doc => (ofTexts files).loadReference ref = .ok doc)
      (m.map.tilesets.zip m.wangSets) tilesets) :
    (ofTexts files).loadMapWithTilesets p = .ok ⟨m.map, tilesets⟩ := by
  unfold loadMapWithTilesets
  simp only [bind_eq_ok_iff]
  exact ⟨text, document_ofTexts h, m, hparse, tilesets, mapM_eq_ok_iff.mpr hdocs, rfl⟩

/-- **Loading keeps references and documents side by side.** The document in the place of
a reference is the one that loading this reference gives, together with the Wang sets
written in the same place of the map. -/
theorem loadReference_of_loadMapWithTilesets {d : Disk} {path : Path} {l : LoadedMap}
    (hload : d.loadMapWithTilesets path = .ok l) :
    ∃ wangSets : List (List Wang.WangSet), wangSets.length = l.map.tilesets.length ∧
      List.Forall₂ (fun ref doc => d.loadReference ref = .ok doc)
        (l.map.tilesets.zip wangSets) l.tilesets := by
  unfold loadMapWithTilesets at hload
  simp only [bind_eq_ok_iff] at hload
  obtain ⟨text, -, m, hparse, tilesets, hreferences, hresult⟩ := hload
  cases hresult
  obtain ⟨e, -, hread⟩ := bind_eq_ok_iff.mp hparse
  exact ⟨m.wangSets, Document.readMapDocument_aligned hread, mapM_eq_ok_iff.mp hreferences⟩

/-- A loaded map has as many documents as references. -/
theorem length_tilesets_of_loadMapWithTilesets {d : Disk} {path : Path} {l : LoadedMap}
    (hload : d.loadMapWithTilesets path = .ok l) :
    l.tilesets.length = l.map.tilesets.length := by
  obtain ⟨wangSets, haligned, hdocs⟩ := loadReference_of_loadMapWithTilesets hload
  rw [← hdocs.length_eq, List.length_zip, haligned, Nat.min_self]

/-- A document of a loaded map that knows a path is the tileset of that file. -/
theorem loadTileset_of_mem_tilesets {d : Disk} {path : Path} {l : LoadedMap}
    (hload : d.loadMapWithTilesets path = .ok l) {doc : TilesetDocument} (hdoc : doc ∈ l.tilesets)
    {p : Path} (hp : doc.path = some p) : d.loadTileset p = .ok doc := by
  obtain ⟨wangSets, -, hdocs⟩ := loadReference_of_loadMapWithTilesets hload
  obtain ⟨ref, -, href⟩ := exists_of_mem_of_forall₂ hdocs hdoc
  unfold loadReference at href
  split at href
  · rename_i q _
    have hq := path_of_loadTileset href
    rw [hp] at hq
    cases hq
    exact href
  · cases href
    cases hp

end Disk

namespace LoadedMap

/-! ### An example -/

/-- A map with a tileset file beside it and a tileset inside it. The second cell is
flipped. -/
def mixedText : String :=
  "<map width='2' height='1' tilewidth='8' tileheight='8'>
  <tileset firstgid='1' source='t.tsx'/>
  <tileset firstgid='3' tilewidth='8' tileheight='8' tilecount='1'/>
  <layer><data>2,2147483651</data></layer>
</map>"

def mixedTilesetText : String :=
  "<tileset tilewidth='8' tileheight='8' tilecount='2'/>"

/-- The map and its tileset file, which a second path leads to as well. -/
def mixedFiles : List (Path × Path × String) :=
  [(⟨"d/m.tmx"⟩, ⟨"/d/m.tmx"⟩, mixedText), (⟨"d/t.tsx"⟩, ⟨"/d/t.tsx"⟩, mixedTilesetText),
    (⟨"d//t.tsx"⟩, ⟨"/d/t.tsx"⟩, mixedTilesetText)]

def mixedDisk : Disk := .ofTexts mixedFiles

def mixedTileset (tileCount : UInt32) : Tileset :=
  { Tileset.empty with tileWidth := 8, tileHeight := 8, tileCount }

def mixed : LoadedMap where
  map :=
    { TileMap.blank 2 1 8 8 with
      tilesets := [⟨1, .external ⟨"d/t.tsx"⟩⟩, ⟨3, .embedded (mixedTileset 1)⟩],
      layers := [⟨"", true, .other, [2, 2147483651]⟩] }
  tilesets := [⟨some ⟨"d/t.tsx"⟩, mixedTileset 2, []⟩, ⟨none, mixedTileset 1, []⟩]

theorem lookup_mixedFiles :
    mixedFiles.lookup ⟨"d/m.tmx"⟩ = some (⟨"/d/m.tmx"⟩, mixedText) ∧
      mixedFiles.lookup ⟨"d/t.tsx"⟩ = some (⟨"/d/t.tsx"⟩, mixedTilesetText) ∧
      mixedFiles.lookup ⟨"d//t.tsx"⟩ = some (⟨"/d/t.tsx"⟩, mixedTilesetText) := by
  decide +kernel

theorem parseTileset_mixedTilesetText :
    parseTileset mixedTilesetText = .ok ⟨none, mixedTileset 2, []⟩ :=
  (congrArg (fun e => Except.bind e Document.readTilesetDocument)
    (Document.parseElement_of_toList mixedTilesetText String.toList_ofList)).trans
    (by decide +kernel)

set_option maxRecDepth 4000 in
theorem load_mixed : mixedDisk.loadMapWithTilesets ⟨"d/m.tmx"⟩ = .ok mixed := by
  obtain ⟨hmapFile, hsetFile, -⟩ := lookup_mixedFiles
  have hdir : Path.directory ⟨"d/m.tmx"⟩ = ⟨"d"⟩ := by decide +kernel
  have hmap : parseMapDocument mixedText ⟨"d"⟩ = .ok ⟨mixed.map, [[], []]⟩ :=
    (congrArg (fun e => Except.bind e (Document.readMapDocument ⟨"d"⟩))
      (Document.parseElement_of_toList mixedText String.toList_ofList)).trans (by decide +kernel)
  rw [← hdir] at hmap
  exact Disk.loadMapWithTilesets_ofTexts hmapFile hmap
    (.cons (Disk.loadTileset_ofTexts hsetFile parseTileset_mixedTilesetText) (.cons rfl .nil))

end LoadedMap

end TileAtlas
