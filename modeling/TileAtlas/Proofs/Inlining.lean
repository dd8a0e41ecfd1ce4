/-
Tilesets in files of their own and tilesets inside the map.

A map may refer to a tileset file, or hold the tileset element of that file itself with
its first id added. The reader never looks at a first id when it reads the tileset
(`Document.readTileset_inlined`), so the two elements give references that start alike and
documents that differ at most in their path (`Disk.loadsAlike_inlined`,
`Disk.loadsAlike_reference`). Ids resolve by the starts alone and the check of a map
looks at no path, so nothing else of the map depends on which of the two it is.
-/

import TileAtlas.Check.Map
import TileAtlas.Proofs.Findings
import TileAtlas.Proofs.MapLoading

namespace TileAtlas

open Fallible Markup
open Report (kinds kinds_nil kinds_cons kinds_append)

/-! ### Maps alike but for paths -/

/-- Documents that differ at most in the path they were read from. -/
def TilesetDocument.SameContent (x y : TilesetDocument) : Prop :=
  x.tileset = y.tileset ∧ x.wangSets = y.wangSets

/-- References that start alike, with documents of the same content. -/
def TilesetRef.Alike (x y : TilesetRef × TilesetDocument) : Prop :=
  x.1.firstGid = y.1.firstGid ∧ x.2.SameContent y.2

theorem TilesetRef.Alike.refl (x : TilesetRef × TilesetDocument) : Alike x x :=
  ⟨rfl, rfl, rfl⟩

/-- Where an id belongs depends on the first ids alone. -/
theorem TileMap.resolve?_congr {m m' : TileMap}
    (hfirst : m.tilesets.map (·.firstGid) = m'.tilesets.map (·.firstGid)) (gid : UInt32) :
    m.resolve? gid = m'.resolve? gid := by
  have hstarts (m : TileMap) : m.tilesets.zipIdx.map (fun r => (r.2, r.1.firstGid)) =
      (m.tilesets.map (·.firstGid)).zipIdx.map (fun r => (r.2, r.1)) := by
    rw [List.zipIdx_map, List.map_map]
    rfl
  unfold resolve?
  rw [hstarts, hstarts, hfirst]

namespace Check

theorem kinds_firstGidIssues (label label' : String) {index : Nat} {previous : UInt32}
    {refs refs' : List TilesetRef}
    (hfirst : refs.map (·.firstGid) = refs'.map (·.firstGid)) :
    kinds (firstGidIssues label index previous refs) =
      kinds (firstGidIssues label' index previous refs') := by
  induction refs generalizing index previous refs' with
  | nil =>
      rw [List.map_nil] at hfirst
      rw [List.map_eq_nil_iff.mp hfirst.symm]
      rfl
  | cons ref refs ih =>
      obtain ⟨ref', rest, rfl, hhead, htail⟩ := List.map_eq_cons_iff.mp hfirst.symm
      simp only [firstGidIssues, kinds_append, apply_ite kinds, kinds_cons, kinds_nil,
        Issue.kind_new, hhead, ih htail.symm]

/-- A finding about the tile size depends on the sizes, not on where the tileset stands. -/
theorem kinds_tileSizeIssues (label label' : String) {m m' : TileMap} {doc doc' : TilesetDocument}
    (hwidth : m.tileWidth = m'.tileWidth) (hheight : m.tileHeight = m'.tileHeight)
    (hdoc : doc.SameContent doc') :
    kinds (tileSizeIssues label m doc) = kinds (tileSizeIssues label' m' doc') := by
  simp only [tileSizeIssues, hwidth, hheight, hdoc.1, apply_ite kinds, kinds_cons, kinds_nil,
    Issue.kind_new]

theorem kinds_tileSizesIssues (label label' : String) {m m' : TileMap}
    {docs docs' : List TilesetDocument} (hwidth : m.tileWidth = m'.tileWidth)
    (hheight : m.tileHeight = m'.tileHeight)
    (hdocs : List.Forall₂ TilesetDocument.SameContent docs docs') :
    kinds (docs.flatMap (tileSizeIssues label m)) =
      kinds (docs'.flatMap (tileSizeIssues label' m')) := by
  induction hdocs with
  | nil => rfl
  | cons hdoc _ ih =>
      rw [List.flatMap_cons, List.flatMap_cons, kinds_append, kinds_append, ih,
        kinds_tileSizeIssues label label' hwidth hheight hdoc]

/-- A finding about a gid depends on how gids resolve and on what the tilesets hold. -/
theorem kinds_gidIssues (location location' : String) {l l' : LoadedMap}
    (hresolve : ∀ gid, l.map.resolve? gid = l'.map.resolve? gid)
    (hdocs : List.Forall₂ TilesetDocument.SameContent l.tilesets l'.tilesets) (gid : UInt32) :
    kinds (gidIssues location l gid) = kinds (gidIssues location' l' gid) := by
  unfold gidIssues
  rw [hresolve gid]
  cases l'.map.resolve? gid with
  | none => rfl
  | some r =>
      obtain ⟨i, tile⟩ := r
      cases hdoc : l.tilesets[i]? with
      | none =>
          have hnone : l'.tilesets[i]? = none := by
            rw [List.getElem?_eq_none_iff, ← hdocs.length_eq, ← List.getElem?_eq_none_iff, hdoc]
          simp only [hdoc, hnone]
      | some doc =>
          obtain ⟨doc', hdoc', hsame⟩ := exists_getElem?_of_forall₂ hdocs hdoc
          simp only [hdoc, hdoc', hsame.1]
          cases doc'.tileset.containsTile tile with
          | false => rfl
          | true => rfl

/-- **The kinds of findings about a map** depend on its tile size, its first ids, its layers
and the content of its documents, and on nothing else. -/
theorem kinds_map_congr {l l' : LoadedMap} (label label' : String)
    (hwidth : l.map.tileWidth = l'.map.tileWidth) (hheight : l.map.tileHeight = l'.map.tileHeight)
    (hfirst : l.map.tilesets.map (·.firstGid) = l'.map.tilesets.map (·.firstGid))
    (hdocs : List.Forall₂ TilesetDocument.SameContent l.tilesets l'.tilesets)
    (hlayers : l.map.layers = l'.map.layers) :
    kinds (map label l).issues = kinds (map label' l').issues := by
  have hids : kinds (l.map.layers.flatMap (layerIssues label l)) =
      kinds (l'.map.layers.flatMap (layerIssues label' l')) := by
    rw [hlayers]
    refine kinds_flatMap_congr (fun layer => ?_) _
    exact kinds_flatMap_congr (kinds_gidIssues _ _ (TileMap.resolve?_congr hfirst) hdocs) _
  unfold map
  rw [kinds_append, kinds_append, kinds_append, kinds_append, hids,
    kinds_firstGidIssues label label' hfirst,
    kinds_tileSizesIssues label label' hwidth hheight hdocs]

end Check

namespace Disk

open Document

/-! ### Elements with their documents -/

def loadElement (d : Disk) (dir : Path) (e : Element) : Read (TilesetRef × TilesetDocument) :=
  readTilesetRef dir e >>= fun ref => (d.loadReference ref).map fun doc => (ref.1, doc)

/-- References load if their documents do, and keep their order. -/
theorem loadEntries_eq_ok_iff {d : Disk} {refs : List (TilesetRef × List Wang.WangSet)}
    {entries : List (TilesetRef × TilesetDocument)} :
    (refs.mapM fun ref => (d.loadReference ref).map fun doc => (ref.1, doc)) = .ok entries ↔
      refs.mapM d.loadReference = .ok (entries.map (·.2)) ∧
        refs.map (·.1) = entries.map (·.1) := by
  simp only [mapM_eq_ok_iff, map_eq_ok_iff]
  induction refs generalizing entries with
  | nil =>
      cases entries with
      | nil => simp
      | cons entry entries => simp
  | cons ref refs ih =>
      cases entries with
      | nil => simp
      | cons entry entries =>
          simp only [List.map_cons, List.forall₂_cons, ih, List.cons.injEq]
          constructor
          · rintro ⟨⟨doc, hdoc, rfl⟩, hdocs, hrefs⟩
            exact ⟨⟨hdoc, hdocs⟩, rfl, hrefs⟩
          · rintro ⟨⟨hdoc, hdocs⟩, href, hrefs⟩
            exact ⟨⟨entry.2, hdoc, Prod.ext href rfl⟩, hdocs, hrefs⟩

/-- Elements load if they read as references whose documents load. -/
theorem loadElements_eq_ok_iff {d : Disk} {dir : Path} {es : List Element}
    {entries : List (TilesetRef × TilesetDocument)} :
    es.mapM (d.loadElement dir) = .ok entries ↔
      ∃ refs, es.mapM (readTilesetRef dir) = .ok refs ∧
        refs.mapM d.loadReference = .ok (entries.map (·.2)) ∧
        refs.map (·.1) = entries.map (·.1) := by
  unfold loadElement
  simp only [mapM_bind_eq_ok_iff, loadEntries_eq_ok_iff]

/-- **What a loaded map is made of.** Loading succeeds if the sizes, every tileset element
with its document and all layers can be read, and then has just these. -/
theorem loadMapWithTilesets_eq_ok_iff {d : Disk} {path : Path} {root : Element}
    (hroot : d.root path = .ok root) {l : LoadedMap} :
    d.loadMapWithTilesets path = .ok l ↔
      root.name = "map" ∧ ∃ sizes entries layers, readMapSizes root = .ok sizes ∧
        (root.elementsNamed "tileset").mapM (d.loadElement path.directory) = .ok entries ∧
        readLayersIn sizes.width sizes.height true root.children = .ok layers ∧
        l = ⟨{ sizes with tilesets := entries.map (·.1), layers := layers },
          entries.map (·.2)⟩ := by
  have hdocument : d.mapDocument path = readMapDocument path.directory root := by
    rw [mapDocument, hroot]
    rfl
  have hzip (refs : List (TilesetRef × List Wang.WangSet)) :
      (refs.map (·.1)).zip (refs.map (·.2)) = refs := by
    rw [List.zip_map', List.map_id']
  rw [loadMapWithTilesets_eq, hdocument]
  constructor
  · intro hload
    obtain ⟨m, hread, hload⟩ := bind_eq_ok_iff.mp hload
    obtain ⟨docs, hdocs, rfl⟩ := map_eq_ok_iff.mp hload
    obtain ⟨hname, sizes, refs, layers, hsizes, hrefs, hlayers, rfl⟩ :=
      readMapDocument_eq_ok_iff.mp hread
    rw [hzip] at hdocs
    have hlength : (refs.map (·.1)).length = docs.length := by
      rw [List.length_map, (mapM_eq_ok_iff.mp hdocs).length_eq]
    have hfst := List.map_fst_zip (Nat.le_of_eq hlength)
    have hsnd := List.map_snd_zip (Nat.le_of_eq hlength.symm)
    refine ⟨hname, sizes, (refs.map (·.1)).zip docs, layers, hsizes, ?_, hlayers, ?_⟩
    · refine loadElements_eq_ok_iff.mpr ⟨refs, hrefs, ?_, hfst.symm⟩
      rw [hsnd]
      exact hdocs
    · rw [hfst, hsnd]
  · rintro ⟨hname, sizes, entries, layers, hsizes, hentries, hlayers, rfl⟩
    obtain ⟨refs, hrefs, hdocs, hfirst⟩ := loadElements_eq_ok_iff.mp hentries
    refine bind_eq_ok_iff.mpr ⟨_, readMapDocument_eq_ok_iff.mpr
      ⟨hname, sizes, refs, layers, hsizes, hrefs, hlayers, rfl⟩, ?_⟩
    refine map_eq_ok_iff.mpr ⟨entries.map (·.2), ?_, ?_⟩
    · rw [hzip]
      exact hdocs
    · rw [hfirst]

end Disk

namespace Document

/-! ### The element in the file and the element in the map -/

/-- The element of a tileset as it stands inside a map: its first id comes in at some
place among its attributes. -/
def inlined (tileset : Element) (first : String) (place : Nat) : Element :=
  { tileset with
    attributes :=
      tileset.attributes.take place ++ ⟨none, "firstgid", first⟩ :: tileset.attributes.drop place }

/-- An element that refers to a tileset file and gives the first id. -/
structure RefersTo (reference : Element) (first source : String) : Prop where
  name_eq : reference.name = "tileset"
  first_eq : reference.attribute? "firstgid" = some first
  source_eq : reference.attribute? "source" = some source

/-- Reading a tileset passes over a first id. -/
theorem readTileset_inlined (tileset : Element) (first : String) (place : Nat) :
    readTileset (inlined tileset first place) = readTileset tileset := by
  have hskip (h : TilesetHead) : readTilesetAttribute h ⟨none, "firstgid", first⟩ = .ok h := rfl
  have hattributes : (inlined tileset first place).attributes.foldlM readTilesetAttribute
      TilesetHead.empty = tileset.attributes.foldlM readTilesetAttribute TilesetHead.empty := by
    conv_rhs => rw [← List.take_append_drop place tileset.attributes]
    simp only [inlined, List.foldlM_append, List.foldlM_cons, hskip]
    rfl
  unfold readTileset
  rw [hattributes]
  rfl

/-- The embedded tileset carries the first gid the reference had. -/
theorem attribute?_inlined_firstgid {tileset : Element}
    (hfirst : tileset.attribute? "firstgid" = none) (first : String) (place : Nat) :
    (inlined tileset first place).attribute? "firstgid" = some first := by
  unfold Element.attribute? at hfirst ⊢
  rw [Option.map_eq_none_iff, ← List.take_append_drop place tileset.attributes,
    List.find?_append, Option.or_eq_none_iff] at hfirst
  rw [inlined, List.find?_append, hfirst.1]
  rfl

theorem attribute?_inlined_source (tileset : Element) (first : String) (place : Nat) :
    (inlined tileset first place).attribute? "source" = tileset.attribute? "source" := by
  unfold Element.attribute?
  conv_rhs => rw [← List.take_append_drop place tileset.attributes]
  rw [inlined, List.find?_append, List.find?_append, List.find?_cons_of_neg (by simp)]

/-- The first id that an attribute gives. -/
def readFirstGid (first : String) : Read UInt32 :=
  readValue Text.uint32? "tileset" "firstgid" first

/-- A reference is read without opening the file it names. -/
theorem readTilesetRef_reference {reference : Element} {first source : String}
    (href : RefersTo reference first source) (dir : Path) :
    readTilesetRef dir reference =
      (readFirstGid first).map fun n => (⟨n, .external (dir.join ⟨source⟩)⟩, []) := by
  unfold readTilesetRef readFirstGid
  rw [href.first_eq, href.source_eq]
  simp only [require, bind, Except.bind]
  cases readValue Text.uint32? "tileset" "firstgid" first with
  | error cause => rfl
  | ok n => rfl

/-- The embedded form is read as the tileset it writes, with the same first gid. -/
theorem readTilesetRef_inlined {tileset : Element} (hsource : tileset.attribute? "source" = none)
    (hfirst : tileset.attribute? "firstgid" = none) (first : String) (place : Nat) (dir : Path) :
    readTilesetRef dir (inlined tileset first place) =
      (readFirstGid first).bind fun n =>
        (readTileset tileset).map fun r => (⟨n, .embedded r.1⟩, r.2) := by
  unfold readTilesetRef readFirstGid
  rw [attribute?_inlined_firstgid hfirst, attribute?_inlined_source, hsource,
    readTileset_inlined]
  simp only [require, bind, Except.bind]
  cases readValue Text.uint32? "tileset" "firstgid" first with
  | error cause => rfl
  | ok n =>
      cases readTileset tileset with
      | error cause => rfl
      | ok r => rfl

end Document

namespace Disk

open Document

/-- A tileset file is read as the tileset that its root element is. -/
theorem loadTileset_eq_of_root {d : Disk} {file : Path} {tileset : Element}
    (hroot : d.root file = .ok tileset) (hname : tileset.name = "tileset") :
    d.loadTileset file = (readTileset tileset).map fun r => ⟨some file, r.1, r.2⟩ := by
  have hbind : d.loadTileset file =
      (d.root file).bind fun e =>
        (readTilesetDocument e).map fun doc => { doc with path := some file } := by
    rw [loadTileset_eq]
    unfold root parseTileset
    cases d.document file with
    | error cause => rfl
    | ok text =>
        cases hparse : parseElement text with
        | error cause => simp only [Except.bind, hparse, Except.map]
        | ok e => simp only [Except.bind, hparse]
  rw [hbind, hroot]
  simp only [Except.bind, readTilesetDocument, if_pos hname]
  cases readTileset tileset with
  | error cause => rfl
  | ok r => rfl

/-- Where the one element loads, so does the other, to a reference and a document alike. -/
def LoadsAlike (d : Disk) (dir : Path) (e e' : Element) : Prop :=
  ∀ x, d.loadElement dir e = .ok x → ∃ y, d.loadElement dir e' = .ok y ∧ TilesetRef.Alike x y

theorem LoadsAlike.refl (d : Disk) (dir : Path) (e : Element) : d.LoadsAlike dir e e :=
  fun x hx => ⟨x, hx, .refl x⟩

section Swap

variable {d : Disk} {dir : Path} {tileset reference : Element} {first source : String}
  {place : Nat} {x : TilesetRef × TilesetDocument}

/-- What a reference loads: the tileset in the file, under the file's path. -/
theorem loadElement_reference_eq_ok_iff (href : RefersTo reference first source)
    (hfile : d.root (dir.join ⟨source⟩) = .ok tileset) (hname : tileset.name = "tileset") :
    d.loadElement dir reference = .ok x ↔
      ∃ n r, readFirstGid first = .ok n ∧ readTileset tileset = .ok r ∧
        x = (⟨n, .external (dir.join ⟨source⟩)⟩, ⟨some (dir.join ⟨source⟩), r.1, r.2⟩) := by
  have hload (n : UInt32) : d.loadReference (⟨n, .external (dir.join ⟨source⟩)⟩, []) =
      (readTileset tileset).map fun r => ⟨some (dir.join ⟨source⟩), r.1, r.2⟩ :=
    loadTileset_eq_of_root hfile hname
  simp only [loadElement, readTilesetRef_reference href, bind_eq_ok_iff, map_eq_ok_iff]
  constructor
  · rintro ⟨_, ⟨n, hn, rfl⟩, doc, hdoc, rfl⟩
    rw [hload] at hdoc
    obtain ⟨r, hr, rfl⟩ := map_eq_ok_iff.mp hdoc
    exact ⟨n, r, hn, hr, rfl⟩
  · rintro ⟨n, r, hn, hr, rfl⟩
    refine ⟨_, ⟨n, hn, rfl⟩, _, ?_, rfl⟩
    rw [hload]
    exact map_eq_ok_iff.mpr ⟨r, hr, rfl⟩

/-- What the embedded form loads: the same tileset, under no path. -/
theorem loadElement_inlined_eq_ok_iff (hsource : tileset.attribute? "source" = none)
    (hfirst : tileset.attribute? "firstgid" = none) :
    d.loadElement dir (inlined tileset first place) = .ok x ↔
      ∃ n r, readFirstGid first = .ok n ∧ readTileset tileset = .ok r ∧
        x = (⟨n, .embedded r.1⟩, ⟨none, r.1, r.2⟩) := by
  simp only [loadElement, readTilesetRef_inlined hsource hfirst, bind_eq_ok_iff]
  constructor
  · rintro ⟨ref, href, hdoc⟩
    obtain ⟨n, hn, href⟩ := bind_eq_ok_iff.mp href
    obtain ⟨r, hr, rfl⟩ := map_eq_ok_iff.mp href
    cases hdoc
    exact ⟨n, r, hn, hr, rfl⟩
  · rintro ⟨n, r, hn, hr, rfl⟩
    exact ⟨_, bind_eq_ok_iff.mpr ⟨n, hn, map_eq_ok_iff.mpr ⟨r, hr, rfl⟩⟩, rfl⟩

/-- Replacing a reference by the tileset in its file loads alike. -/
theorem loadsAlike_inlined (href : RefersTo reference first source)
    (hfile : d.root (dir.join ⟨source⟩) = .ok tileset) (hname : tileset.name = "tileset")
    (hsource : tileset.attribute? "source" = none)
    (hfirst : tileset.attribute? "firstgid" = none) :
    d.LoadsAlike dir reference (inlined tileset first place) := by
  intro x hx
  obtain ⟨n, r, hn, hr, rfl⟩ := (loadElement_reference_eq_ok_iff href hfile hname).mp hx
  exact ⟨_, (loadElement_inlined_eq_ok_iff hsource hfirst).mpr ⟨n, r, hn, hr, rfl⟩, rfl, rfl, rfl⟩

/-- Replacing an embedded tileset by a reference to a file with it loads alike. -/
theorem loadsAlike_reference (href : RefersTo reference first source)
    (hfile : d.root (dir.join ⟨source⟩) = .ok tileset) (hname : tileset.name = "tileset")
    (hsource : tileset.attribute? "source" = none)
    (hfirst : tileset.attribute? "firstgid" = none) :
    d.LoadsAlike dir (inlined tileset first place) reference := by
  intro x hx
  obtain ⟨n, r, hn, hr, rfl⟩ := (loadElement_inlined_eq_ok_iff hsource hfirst).mp hx
  exact ⟨_, (loadElement_reference_eq_ok_iff href hfile hname).mpr ⟨n, r, hn, hr, rfl⟩,
    rfl, rfl, rfl⟩

end Swap

/-! ### Maps that differ in one such element -/

/-- The tileset elements of a map with an element in some place. -/
theorem elementsNamed_tileset_place (name : String) (attributes : List Attribute)
    (before after : List Node) {e : Element} (he : e.name = "tileset") :
    Element.elementsNamed ⟨name, attributes, before ++ e.node :: after⟩ "tileset" =
      tilesetElements before ++ e :: tilesetElements after := by
  have hnode : e.node.element? = some e := rfl
  unfold Element.elementsNamed Element.elements tilesetElements
  rw [List.filterMap_append, List.filter_append, List.filterMap_cons_some hnode,
    List.filter_cons_of_pos (by simpa using he)]

/-- The layers of a map do not depend on a tileset element in some place. -/
theorem readLayersIn_place {width height : UInt32} {visible : Bool} {before after : List Node}
    {e e' : Element} (he : e.name = "tileset") (he' : e'.name = "tileset") :
    readLayersIn width height visible (before ++ e.node :: after) =
      readLayersIn width height visible (before ++ e'.node :: after) := by
  have hnone {e : Element} (he : e.name = "tileset") :
      readLayers width height visible e.node = .ok [] :=
    readLayers_of_name _ _ _ (by rw [he]; decide) (by rw [he]; decide)
  induction before with
  | nil => simp only [List.nil_append, readLayersIn, hnone he, hnone he']
  | cons n ns ih => simp only [List.cons_append, readLayersIn, ih]

/-- If one element can stand for another, so can a map with it for a map with the other:
when the one loads, so does the other, with the same sizes and layers. -/
theorem exists_load_of_place {d : Disk} {a b : Path} (hdir : a.directory = b.directory)
    {name : String} {attributes : List Attribute} {before after : List Node} {e e' : Element}
    (he : e.name = "tileset") (he' : e'.name = "tileset")
    (ha : d.root a = .ok ⟨name, attributes, before ++ e.node :: after⟩)
    (hb : d.root b = .ok ⟨name, attributes, before ++ e'.node :: after⟩)
    (halike : d.LoadsAlike a.directory e e')
    {l : LoadedMap} (hload : d.loadMapWithTilesets a = .ok l) :
    ∃ l', d.loadMapWithTilesets b = .ok l' ∧
      l.map.tileWidth = l'.map.tileWidth ∧ l.map.tileHeight = l'.map.tileHeight ∧
      l.map.tilesets.map (·.firstGid) = l'.map.tilesets.map (·.firstGid) ∧
      List.Forall₂ TilesetDocument.SameContent l.tilesets l'.tilesets ∧
      l.map.layers = l'.map.layers := by
  obtain ⟨hname, sizes, entries, layers, hsizes, hentries, hlayers, rfl⟩ :=
    (loadMapWithTilesets_eq_ok_iff ha).mp hload
  rw [elementsNamed_tileset_place _ _ _ _ he] at hentries
  have hself (es : List Element) : List.Forall₂ (d.LoadsAlike a.directory) es es :=
    List.forall₂_same.mpr fun e _ => .refl d a.directory e
  have hplaces : List.Forall₂ (d.LoadsAlike a.directory)
      (tilesetElements before ++ e :: tilesetElements after)
      (tilesetElements before ++ e' :: tilesetElements after) :=
    List.rel_append (hself _) (.cons halike (hself _))
  obtain ⟨entries', hentries', hall⟩ := exists_mapM_of_forall₂ hplaces hentries
  rw [hdir, ← elementsNamed_tileset_place name attributes _ _ he'] at hentries'
  rw [readLayersIn_place he he'] at hlayers
  refine ⟨_, (loadMapWithTilesets_eq_ok_iff hb).mpr
    ⟨hname, sizes, entries', layers, hsizes, hentries', hlayers, rfl⟩, rfl, rfl, ?_, ?_, rfl⟩
  · rw [List.map_map, List.map_map]
    exact List.forall₂_eq_eq_eq ▸ List.forall₂_map_left_iff.mpr
      (List.forall₂_map_right_iff.mpr (hall.imp fun _ _ h => h.1))
  · exact List.forall₂_map_left_iff.mpr
      (List.forall₂_map_right_iff.mpr (hall.imp fun _ _ h => h.2))

/-- **Inlining a tileset does not change a map.** Let two map files of one directory differ
in one place: the one refers there to a tileset file, the other has the root element of
that file with its first id added. Then one loads with its tilesets exactly if the other
does, and the documents in every place have the same content, every id belongs to the same
place, the layers are equal, and the checks find issues of the same kinds in the same
order. -/
theorem loadMapWithTilesets_inlined {d : Disk} {a b : Path} (hdir : a.directory = b.directory)
    {tileset reference : Element} {first source : String} {place : Nat}
    (hname : tileset.name = "tileset") (hsource : tileset.attribute? "source" = none)
    (hfirst : tileset.attribute? "firstgid" = none) (href : RefersTo reference first source)
    (hfile : d.root (a.directory.join ⟨source⟩) = .ok tileset)
    {name : String} {attributes : List Attribute} {before after : List Node}
    (ha : d.root a = .ok ⟨name, attributes, before ++ reference.node :: after⟩)
    (hb : d.root b =
      .ok ⟨name, attributes, before ++ (inlined tileset first place).node :: after⟩) :
    ((∃ l, d.loadMapWithTilesets a = .ok l) ↔ ∃ l, d.loadMapWithTilesets b = .ok l) ∧
      ∀ l l', d.loadMapWithTilesets a = .ok l → d.loadMapWithTilesets b = .ok l' →
        List.Forall₂ TilesetDocument.SameContent l.tilesets l'.tilesets ∧
        (∀ gid, l.map.resolve? gid = l'.map.resolve? gid) ∧
        l.map.layers = l'.map.layers ∧
        ∀ label label', kinds (Check.map label l).issues = kinds (Check.map label' l').issues := by
  have hinlined : (inlined tileset first place).name = "tileset" := hname
  have hforth : d.LoadsAlike a.directory reference (inlined tileset first place) :=
    loadsAlike_inlined href hfile hname hsource hfirst
  have hback : d.LoadsAlike b.directory (inlined tileset first place) reference :=
    loadsAlike_reference href (hdir ▸ hfile) hname hsource hfirst
  constructor
  · constructor
    · rintro ⟨l, hl⟩
      obtain ⟨l', hl', -⟩ := exists_load_of_place hdir href.name_eq hinlined ha hb hforth hl
      exact ⟨l', hl'⟩
    · rintro ⟨l, hl⟩
      obtain ⟨l', hl', -⟩ := exists_load_of_place hdir.symm hinlined href.name_eq hb ha hback hl
      exact ⟨l', hl'⟩
  · intro l l' hl hl'
    obtain ⟨l'', hl'', hwidth, hheight, hstarts, hdocs, hlayers⟩ :=
      exists_load_of_place hdir href.name_eq hinlined ha hb hforth hl
    cases hl'.symm.trans hl''
    exact ⟨hdocs, TileMap.resolve?_congr hstarts, hlayers,
      fun label label' => Check.kinds_map_congr label label' hwidth hheight hstarts hdocs hlayers⟩

end Disk

namespace LoadedMap

open Document

def terrainElement : Element where
  name := "tileset"
  attributes :=
    [⟨none, "name", "t"⟩, ⟨none, "tilewidth", "8"⟩, ⟨none, "tileheight", "8"⟩,
      ⟨none, "tilecount", "2"⟩]
  children :=
    [.element "wangsets" []
      [.element "wangset" [⟨none, "name", "w"⟩, ⟨none, "type", "edge"⟩, ⟨none, "tile", "-1"⟩] []]]

def terrainReference : Element :=
  ⟨"tileset", [⟨none, "firstgid", "5"⟩, ⟨none, "source", "t.tsx"⟩], []⟩

/-- The root element of the example's maps, with an element in the last place. -/
def terrainMap (e : Element) : Element where
  name := "map"
  attributes :=
    [⟨none, "width", "1"⟩, ⟨none, "height", "1"⟩, ⟨none, "tilewidth", "8"⟩,
      ⟨none, "tileheight", "8"⟩]
  children :=
    [.element "tileset"
        [⟨none, "firstgid", "1"⟩, ⟨none, "tilewidth", "8"⟩, ⟨none, "tileheight", "8"⟩,
          ⟨none, "tilecount", "4"⟩] [],
      .element "layer" [] [.element "data" [] [.text "7"]]] ++ [e.node]

set_option maxRecDepth 4000 in
theorem root_terrain :
    terrainDisk.root ⟨"d/t.tsx"⟩ = .ok terrainElement ∧
      terrainDisk.root ⟨"d/a.tmx"⟩ = .ok (terrainMap terrainReference) ∧
      terrainDisk.root ⟨"d/b.tmx"⟩ = .ok (terrainMap (inlined terrainElement "5" 1)) := by
  obtain ⟨ht, ha, hb⟩ := lookup_terrainFiles
  exact ⟨(Disk.root_ofTexts ht).trans
      ((parseElement_of_toList terrainText String.toList_ofList).trans (by decide +kernel)),
    (Disk.root_ofTexts ha).trans
      ((parseElement_of_toList terrainReferenceText String.toList_ofList).trans (by decide +kernel)),
    (Disk.root_ofTexts hb).trans
      ((parseElement_of_toList terrainInlinedText String.toList_ofList).trans (by decide +kernel))⟩

/-- The example's maps load, the one because the other does, and they have the same
content and findings although their paths differ. -/
theorem terrain_inlined :
    terrainDisk.loadMapWithTilesets ⟨"d/b.tmx"⟩ = .ok terrain ∧
      ∃ l, terrainDisk.loadMapWithTilesets ⟨"d/a.tmx"⟩ = .ok l ∧
        List.Forall₂ TilesetDocument.SameContent l.tilesets terrain.tilesets ∧
        (∀ gid, l.map.resolve? gid = terrain.map.resolve? gid) ∧
        l.map.layers = terrain.map.layers ∧
        ∀ label label',
          kinds (Check.map label l).issues = kinds (Check.map label' terrain).issues := by
  obtain ⟨ht, ha, hb⟩ := root_terrain
  have hdir : Path.directory ⟨"d/a.tmx"⟩ = Path.directory ⟨"d/b.tmx"⟩ := by decide +kernel
  have hfile : (Path.directory ⟨"d/a.tmx"⟩).join ⟨"t.tsx"⟩ = ⟨"d/t.tsx"⟩ := by decide +kernel
  have href : RefersTo terrainReference "5" "t.tsx" := ⟨rfl, rfl, rfl⟩
  obtain ⟨hloads, hsame⟩ := Disk.loadMapWithTilesets_inlined hdir rfl rfl rfl href
    (hfile.symm ▸ ht) ha hb
  obtain ⟨l, hl⟩ := hloads.mpr ⟨terrain, load_terrain⟩
  exact ⟨load_terrain, l, hl, hsame l terrain hl load_terrain⟩

end LoadedMap

end TileAtlas
