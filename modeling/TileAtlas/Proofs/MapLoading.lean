/-
Reading maps with and without their tilesets.

A map document is read node by node, but references and layers do not meet: the document
that results is made of what the tileset elements give, in their order, and of what the
layers give (`Document.readMapDocument_eq_ok_iff`). A tileset element in turn gives the
Wang sets that are declared inside it, and no others
(`Document.mapM_readWangSet_of_readTileset`).

The two ways of loading a map start from this one document. So they agree on the map and
on every failure to read it, and loading with tilesets adds one document for each
reference, or fails at the first reference to a file that does not load.
-/

import TileAtlas.Proofs.GlobalIds
import TileAtlas.Proofs.Loading

namespace TileAtlas

open Fallible Markup

theorem Markup.Node.eq_node_of_element? {n : Node} {e : Element} (h : n.element? = some e) :
    n = e.node := by
  unfold Node.element? at h
  split at h
  · cases h
    rfl
  · cases h

namespace Document

open Wang (WangSet)

/-! ### The Wang sets of a tileset element -/

def wangSetElements (e : Element) : List Element :=
  (e.elementsNamed "wangsets").flatMap fun sets => sets.elementsNamed "wangset"

/-- One element inside a tileset adds the Wang sets declared in it. -/
theorem exists_sets_of_readTilesetChild {t t' : Tileset × List WangSet} {c : Element}
    (hread : readTilesetChild t c = .ok t') :
    ∃ sets, t'.2 = t.2 ++ sets ∧
      (if c.name = "wangsets" then (c.elementsNamed "wangset").mapM readWangSet else .ok []) =
        .ok sets := by
  by_cases hname : c.name = "wangsets"
  · rw [if_pos hname]
    simp only [readTilesetChild, hname] at hread
    obtain ⟨sets, hsets, rfl⟩ := map_eq_ok_iff.mp hread
    exact ⟨sets, rfl, hsets⟩
  · rw [if_neg hname]
    refine ⟨[], ?_, rfl⟩
    rw [List.append_nil]
    unfold readTilesetChild at hread
    split at hread
    case h_4 => 
      obtain ⟨⟨id, data⟩, -, rfl⟩ := map_eq_ok_iff.mp hread
      simp only
      split
      · rfl
      · rfl
    case h_5 hsets => exact absurd hsets hname
    case h_6 =>
      cases hread
      rfl
    all_goals
      obtain ⟨value, -, rfl⟩ := map_eq_ok_iff.mp hread
      rfl

/-- The children of a tileset add its Wang sets in their order, and take none away. -/
theorem exists_sets_of_readTilesetChildren {t t' : Tileset × List WangSet} {cs : List Element}
    (hread : cs.foldlM readTilesetChild t = .ok t') :
    ∃ sets, t'.2 = t.2 ++ sets ∧
      ((cs.filter (fun c => c.name == "wangsets")).flatMap
        fun c => c.elementsNamed "wangset").mapM readWangSet = .ok sets := by
  induction cs generalizing t with
  | nil =>
      cases hread
      exact ⟨[], (List.append_nil _).symm, rfl⟩
  | cons c cs ih =>
      rw [List.foldlM_cons, bind_eq_ok_iff] at hread
      obtain ⟨s, hc, hcs⟩ := hread
      obtain ⟨first, hfirst, hreadFirst⟩ := exists_sets_of_readTilesetChild hc
      obtain ⟨rest, hrest, hreadRest⟩ := ih hcs
      refine ⟨first ++ rest, by rw [hrest, hfirst, List.append_assoc], ?_⟩
      by_cases hname : c.name = "wangsets"
      · rw [if_pos hname] at hreadFirst
        rw [List.filter_cons_of_pos (by simpa using hname), List.flatMap_cons, List.mapM_append]
        simp only [hreadFirst, hreadRest, bind, Except.bind, pure, Except.pure]
      · rw [if_neg hname] at hreadFirst
        cases hreadFirst
        rw [List.filter_cons_of_neg (by simpa using hname)]
        exact hreadRest

/-- **A tileset has the Wang sets that are declared in its element**, in document order. -/
theorem mapM_readWangSet_of_readTileset {e : Element} {t : Tileset} {sets : List WangSet}
    (hread : readTileset e = .ok (t, sets)) :
    (wangSetElements e).mapM readWangSet = .ok sets := by
  unfold readTileset at hread
  simp only [bind_eq_ok_iff] at hread
  obtain ⟨head, -, width, -, height, -, hchildren⟩ := hread
  obtain ⟨sets', hsets, hmap⟩ := exists_sets_of_readTilesetChildren hchildren
  rw [List.nil_append] at hsets
  subst hsets
  exact hmap

/-! ### References and layers of a map -/

def tilesetElements (ns : List Node) : List Element :=
  (ns.filterMap Node.element?).filter fun e => e.name == "tileset"

/-- A map document with more references and layers. -/
def MapDocument.extend (m : MapDocument) (refs : List (TilesetRef × List WangSet))
    (layers : List Layer) : MapDocument :=
  ⟨{ m.map with
      tilesets := m.map.tilesets ++ refs.map (·.1),
      layers := m.map.layers ++ layers },
    m.wangSets ++ refs.map (·.2)⟩

@[simp] theorem MapDocument.extend_nil (m : MapDocument) : m.extend [] [] = m := by
  simp [extend]

theorem MapDocument.extend_extend (m : MapDocument) (refs refs' : List (TilesetRef × List WangSet))
    (layers layers' : List Layer) :
    (m.extend refs layers).extend refs' layers' = m.extend (refs ++ refs') (layers ++ layers') := by
  simp [extend]

/-- Outside groups and layers there are no layers. -/
theorem readLayers_of_name (width height : UInt32) (visible : Bool) {e : Element}
    (hgroup : e.name ≠ "group") (hlayer : e.name ≠ "layer") :
    readLayers width height visible e.node = .ok [] := by
  simp [readLayers, Element.node, hgroup, hlayer]

/-- A node of a map adds a reference if it is a tileset, and its layers in any case. -/
theorem readMapNode_eq_ok_iff {dir : Path} {m m' : MapDocument} {n : Node} :
    readMapNode dir m n = .ok m' ↔
      ∃ refs layers, (tilesetElements [n]).mapM (readTilesetRef dir) = .ok refs ∧
        readLayers m.map.width m.map.height true n = .ok layers ∧ m' = m.extend refs layers := by
  unfold readMapNode tilesetElements
  rw [List.filterMap_cons, List.filterMap_nil]
  cases hn : n.element? with
  | none =>
      have hlayers : readLayers m.map.width m.map.height true n = .ok [] := by
        cases n with
        | element name attributes children => cases hn
        | _ => rfl
      simp [hlayers, pure, Except.pure, eq_comm]
  | some e =>
      rw [Node.eq_node_of_element? hn]
      by_cases hname : e.name = "tileset"
      · have hlayers : readLayers m.map.width m.map.height true e.node = .ok [] :=
          readLayers_of_name _ _ _ (by rw [hname]; decide) (by rw [hname]; decide)
        simp only [hname, if_true, beq_self_eq_true, List.filter_cons_of_pos, List.filter_nil,
          map_eq_ok_iff, hlayers, mapM_eq_ok_iff, List.forall₂_cons_left_iff,
          List.forall₂_nil_left_iff, Except.ok.injEq]
        constructor
        · rintro ⟨ref, href, rfl⟩
          exact ⟨[ref], [], ⟨ref, [], href, rfl, rfl⟩, rfl, by simp [MapDocument.extend]⟩
        · rintro ⟨_, _, ⟨ref, _, href, rfl, rfl⟩, rfl, rfl⟩
          exact ⟨ref, href, by simp [MapDocument.extend]⟩
      · simp only [hname, if_false, beq_iff_eq, not_false_eq_true,
          List.filter_cons_of_neg, List.filter_nil, map_eq_ok_iff, List.mapM_nil, pure, Except.pure,
          Except.ok.injEq]
        constructor
        · rintro ⟨layers, hlayers, rfl⟩
          exact ⟨[], layers, rfl, hlayers, by simp [MapDocument.extend]⟩
        · rintro ⟨_, layers, rfl, hlayers, rfl⟩
          exact ⟨layers, hlayers, by simp [MapDocument.extend]⟩

/-- The nodes of a map add the references of its tileset elements, in their order, and
its layers. -/
theorem readMapNodes_eq_ok_iff {dir : Path} {m m' : MapDocument} {ns : List Node} :
    ns.foldlM (readMapNode dir) m = .ok m' ↔
      ∃ refs layers, (tilesetElements ns).mapM (readTilesetRef dir) = .ok refs ∧
        readLayersIn m.map.width m.map.height true ns = .ok layers ∧ m' = m.extend refs layers := by
  induction ns generalizing m with
  | nil => simp [tilesetElements, readLayersIn, pure, Except.pure, eq_comm]
  | cons n ns ih =>
      have hsplit : tilesetElements (n :: ns) = tilesetElements [n] ++ tilesetElements ns := by
        unfold tilesetElements
        rw [← List.filter_append, ← List.filterMap_append]
        rfl
      simp only [List.foldlM_cons, bind_eq_ok_iff, readMapNode_eq_ok_iff, ih, hsplit,
        List.mapM_append, readLayersIn, pure, Except.pure, Except.ok.injEq]
      constructor
      · rintro ⟨_, ⟨refs, layers, hrefs, hlayers, rfl⟩, refs', layers', hrefs', hlayers', rfl⟩
        exact ⟨refs ++ refs', layers ++ layers', ⟨refs, hrefs, refs', hrefs', rfl⟩,
          ⟨layers, hlayers, layers', hlayers', rfl⟩, MapDocument.extend_extend ..⟩
      · rintro ⟨_, _, ⟨refs, hrefs, refs', hrefs', rfl⟩, ⟨layers, hlayers, layers', hlayers', rfl⟩,
          rfl⟩
        exact ⟨_, ⟨refs, layers, hrefs, hlayers, rfl⟩, refs', layers', hrefs', hlayers',
          (MapDocument.extend_extend ..).symm⟩

/-- What the attributes of a map element give: its sizes, and nothing else yet. -/
def readMapSizes (e : Element) : Read TileMap := do
  let head ← e.attributes.foldlM readMapAttribute MapHead.empty
  head.toMap

/-- **What a map document is made of.** Reading succeeds if the sizes, every tileset
element and all layers can be read; the references are those of the tileset elements in
their order, however they are mixed with layers. -/
theorem readMapDocument_eq_ok_iff {dir : Path} {e : Element} {m : MapDocument} :
    readMapDocument dir e = .ok m ↔
      e.name = "map" ∧ ∃ sizes refs layers, readMapSizes e = .ok sizes ∧
        (tilesetElements e.children).mapM (readTilesetRef dir) = .ok refs ∧
        readLayersIn sizes.width sizes.height true e.children = .ok layers ∧
        m = ⟨{ sizes with tilesets := refs.map (·.1), layers := layers }, refs.map (·.2)⟩ := by
  unfold readMapDocument readMapSizes
  by_cases hname : e.name = "map"
  · simp only [hname, if_true, true_and, bind_eq_ok_iff, readMapNodes_eq_ok_iff]
    constructor
    · rintro ⟨head, hhead, sizes, hsizes, refs, layers, hrefs, hlayers, rfl⟩
      obtain ⟨width, height, tileWidth, tileHeight, rfl⟩ := MapHead.eq_blank_of_toMap hsizes
      exact ⟨_, refs, layers, ⟨head, hhead, hsizes⟩, hrefs, hlayers, rfl⟩
    · rintro ⟨sizes, refs, layers, ⟨head, hhead, hsizes⟩, hrefs, hlayers, rfl⟩
      obtain ⟨width, height, tileWidth, tileHeight, rfl⟩ := MapHead.eq_blank_of_toMap hsizes
      exact ⟨head, hhead, _, hsizes, refs, layers, hrefs, hlayers, rfl⟩
  · simp [hname]

end Document

namespace Disk

open Document

/-! ### Two loaders -/

def root (d : Disk) (path : Path) : Read Element :=
  (d.document path).bind parseElement

/-- A listed file has the root element of its text. -/
theorem root_ofTexts {files : List (Path × Path × String)} {p place : Path} {text : String}
    (h : files.lookup p = some (place, text)) : (ofTexts files).root p = parseElement text := by
  rw [root, document_ofTexts h]
  rfl

def mapDocument (d : Disk) (path : Path) : Read MapDocument :=
  (d.root path).bind (readMapDocument path.directory)

/-- Loading a map alone forgets the Wang sets of its embedded tilesets. -/
theorem loadMap_eq (d : Disk) (path : Path) :
    d.loadMap path = (d.mapDocument path).map (·.map) := by
  unfold loadMap mapDocument root
  cases d.document path with
  | error cause => rfl
  | ok text => rfl

/-- Loading with tilesets goes on from the map to one document for each reference. -/
theorem loadMapWithTilesets_eq (d : Disk) (path : Path) :
    d.loadMapWithTilesets path =
      (d.mapDocument path).bind fun m =>
        ((m.map.tilesets.zip m.wangSets).mapM d.loadReference).map fun docs => ⟨m.map, docs⟩ := by
  unfold loadMapWithTilesets mapDocument root
  cases d.document path with
  | error cause => rfl
  | ok text => rfl

/-- A map that loads with its tilesets loads without them. -/
theorem loadMap_of_loadMapWithTilesets {d : Disk} {path : Path} {l : LoadedMap}
    (hload : d.loadMapWithTilesets path = .ok l) : d.loadMap path = .ok l.map := by
  rw [loadMapWithTilesets_eq] at hload
  obtain ⟨m, hread, hload⟩ := bind_eq_ok_iff.mp hload
  obtain ⟨docs, -, rfl⟩ := map_eq_ok_iff.mp hload
  rw [loadMap_eq, hread]
  rfl

/-- A reference whose document can be had. One to a tileset inside the map always can. -/
def Loads (d : Disk) (ref : TilesetRef) : Prop :=
  ∀ path, ref.source = .external path → ∃ doc, d.loadTileset path = .ok doc

/-- The document that belongs to a reference: the file it names, or the tileset written
in its element with the Wang sets declared there. -/
def IsDocumentOf (d : Disk) (e : Element) (ref : TilesetRef) (doc : TilesetDocument) : Prop :=
  match ref.source with
  | .external path => d.loadTileset path = .ok doc ∧ doc.path = some path
  | .embedded tileset =>
    doc.path = none ∧ doc.tileset = tileset ∧
      (wangSetElements e).mapM readWangSet = .ok doc.wangSets

/-- An embedded tileset always has a document, an external one if its file loads. -/
theorem exists_loadReference_iff {d : Disk} {ref : TilesetRef × List Wang.WangSet} :
    (∃ doc, d.loadReference ref = .ok doc) ↔ d.Loads ref.1 := by
  unfold loadReference Loads
  cases ref.1.source with
  | external path => simp
  | embedded tileset => simp

/-- Only an external tileset can fail, and it fails with the error of its file. -/
theorem loadReference_eq_error_iff {d : Disk} {ref : TilesetRef × List Wang.WangSet}
    {cause : ReadError} :
    d.loadReference ref = .error cause ↔
      ∃ path, ref.1.source = .external path ∧ d.loadTileset path = .error cause := by
  unfold loadReference
  cases ref.1.source with
  | external path => simp
  | embedded tileset => simp

/-- The document that is loaded is the one the element stands for. -/
theorem isDocumentOf_of_loadReference {d : Disk} {dir : Path} {e : Element}
    {ref : TilesetRef × List Wang.WangSet} {doc : TilesetDocument}
    (hread : readTilesetRef dir e = .ok ref) (hload : d.loadReference ref = .ok doc) :
    d.IsDocumentOf e ref.1 doc := by
  unfold readTilesetRef at hread
  simp only [bind_eq_ok_iff] at hread
  obtain ⟨value, -, firstGid, -, hread⟩ := hread
  split at hread
  · cases hread
    exact ⟨hload, path_of_loadTileset hload⟩
  · simp only [bind_eq_ok_iff] at hread
    obtain ⟨⟨tileset, sets⟩, htileset, hread⟩ := hread
    cases hread
    cases hload
    exact ⟨rfl, rfl, mapM_readWangSet_of_readTileset htileset⟩

/-- A map document comes from the root element of its file, and putting its references
and Wang sets side by side gives what the tileset elements were read as. -/
theorem exists_root_of_mapDocument {d : Disk} {path : Path} {m : MapDocument}
    (hread : d.mapDocument path = .ok m) :
    ∃ root refs, d.root path = .ok root ∧
      (root.elementsNamed "tileset").mapM (readTilesetRef path.directory) = .ok refs ∧
      m.map.tilesets.zip m.wangSets = refs ∧ refs.map (·.1) = m.map.tilesets := by
  obtain ⟨root, hroot, hread⟩ := bind_eq_ok_iff.mp hread
  obtain ⟨-, sizes, refs, layers, -, hrefs, -, rfl⟩ := readMapDocument_eq_ok_iff.mp hread
  have hzip : (refs.map (·.1)).zip (refs.map (·.2)) = refs := by
    rw [List.zip_map', List.map_id']
  exact ⟨root, refs, hroot, hrefs, hzip, rfl⟩

/-- An id leads to a document exactly if it belongs to a reference. -/
theorem isSome_tilesetFor? {l : LoadedMap} (hlength : l.tilesets.length = l.map.tilesets.length)
    (gid : UInt32) : (l.tilesetFor? gid).isSome = (l.map.resolve? gid).isSome := by
  unfold LoadedMap.tilesetFor?
  cases hresolve : l.map.resolve? gid with
  | none => rfl
  | some r =>
      obtain ⟨i, tile⟩ := r
      obtain ⟨-, ref, href, -⟩ := TileMap.resolve?_eq_some_iff.mp hresolve
      have hi : i < l.tilesets.length := by
        rw [hlength]
        exact (List.getElem?_eq_some_iff.mp href).1
      rw [Option.bind_some, List.getElem?_eq_getElem hi]
      rfl

/-- All documents are there just when every external tileset loads. -/
theorem exists_loadReferences_iff {d : Disk} {refs : List (TilesetRef × List Wang.WangSet)} :
    (∃ docs, refs.mapM d.loadReference = .ok docs) ↔ ∀ ref ∈ refs.map (·.1), d.Loads ref := by
  simp only [exists_mapM_eq_ok_iff, exists_loadReference_iff, List.forall_mem_map]

/-- The first external tileset that does not load decides the error. -/
theorem loadReferences_eq_error_iff {d : Disk} {refs : List (TilesetRef × List Wang.WangSet)}
    {cause : ReadError} :
    refs.mapM d.loadReference = .error cause ↔
      ∃ before ref after file, refs.map (·.1) = before ++ ref :: after ∧
        (∀ earlier ∈ before, d.Loads earlier) ∧
        ref.source = .external file ∧ d.loadTileset file = .error cause := by
  rw [mapM_eq_error_iff]
  simp only [exists_loadReference_iff, loadReference_eq_error_iff]
  constructor
  · rintro ⟨before, ref, after, rfl, hbefore, file, hfile, hcause⟩
    exact ⟨before.map (·.1), ref.1, after.map (·.1), file, by simp,
      List.forall_mem_map.mpr hbefore, hfile, hcause⟩
  · rintro ⟨before, ref, after, file, hsplit, hbefore, hfile, hcause⟩
    obtain ⟨before', rest, rfl, rfl, hrest⟩ := List.map_eq_append_iff.mp hsplit
    obtain ⟨ref', after', rfl, rfl, rfl⟩ := List.map_eq_cons_iff.mp hrest
    exact ⟨before', ref', after', rfl, List.forall_mem_map.mp hbefore, file, hfile, hcause⟩

/-- Elements, what they are read as and the documents loaded for that stand side by side. -/
theorem exists_isDocumentOf {d : Disk} {dir : Path} {es : List Element}
    {refs : List (TilesetRef × List Wang.WangSet)} {docs : List TilesetDocument}
    (hread : es.mapM (readTilesetRef dir) = .ok refs) (hload : refs.mapM d.loadReference = .ok docs)
    {i : Nat} {ref : TilesetRef} (href : (refs.map (·.1))[i]? = some ref) :
    ∃ e doc, es[i]? = some e ∧ docs[i]? = some doc ∧ d.IsDocumentOf e ref doc := by
  rw [List.getElem?_map, Option.map_eq_some_iff] at href
  obtain ⟨ref, href, rfl⟩ := href
  obtain ⟨e, he, hread⟩ := exists_getElem?_of_forall₂ (mapM_eq_ok_iff.mp hread).flip href
  obtain ⟨doc, hdoc, hload⟩ := exists_getElem?_of_forall₂ (mapM_eq_ok_iff.mp hload) href
  exact ⟨e, doc, he, hdoc, isDocumentOf_of_loadReference hread hload⟩

/-- **The two loaders agree.** A map that cannot be read fails alike with and without its
tilesets. A map that can be read is loaded with its tilesets exactly if all references to
files load, and else fails as the first one that does not. The loaded map is the same, and
the document in the place of each reference is the one that belongs to it; so the ids
that lead to a document are those that belong to a reference. -/
theorem loadMapWithTilesets_agrees (d : Disk) (path : Path) :
    (∀ cause, d.loadMap path = .error cause → d.loadMapWithTilesets path = .error cause) ∧
      ∀ map, d.loadMap path = .ok map →
        ((∃ l, d.loadMapWithTilesets path = .ok l) ↔ ∀ ref ∈ map.tilesets, d.Loads ref) ∧
        (∀ cause, d.loadMapWithTilesets path = .error cause ↔
          ∃ before ref after file, map.tilesets = before ++ ref :: after ∧
            (∀ earlier ∈ before, d.Loads earlier) ∧
            ref.source = .external file ∧ d.loadTileset file = .error cause) ∧
        ∃ root, d.root path = .ok root ∧
          ∀ l, d.loadMapWithTilesets path = .ok l →
            l.map = map ∧ l.tilesets.length = map.tilesets.length ∧
            (∀ (i : Nat) ref, map.tilesets[i]? = some ref →
              ∃ e doc, (root.elementsNamed "tileset")[i]? = some e ∧ l.tilesets[i]? = some doc ∧
                d.IsDocumentOf e ref doc) ∧
            ∀ gid, (l.tilesetFor? gid).isSome = (map.resolve? gid).isSome := by
  rw [loadMap_eq, loadMapWithTilesets_eq]
  cases hread : d.mapDocument path with
  | error cause =>
      constructor
      · rintro cause' h
        cases h
        rfl
      · rintro map h
        cases h
  | ok m =>
      constructor
      · rintro cause h
        cases h
      · rintro map h
        cases h
        obtain ⟨root, refs, hroot, hrefs, hzip, hfirst⟩ := exists_root_of_mapDocument hread
        simp only [Except.bind, map_eq_ok_iff, map_eq_error_iff, hzip]
        rw [← hfirst]
        refine ⟨?_, fun cause => loadReferences_eq_error_iff, root, hroot, ?_⟩
        · rw [← exists_loadReferences_iff]
          constructor
          · rintro ⟨_, docs, hdocs, -⟩
            exact ⟨docs, hdocs⟩
          · rintro ⟨docs, hdocs⟩
            exact ⟨_, docs, hdocs, rfl⟩
        · rintro _ ⟨docs, hdocs, rfl⟩
          have hlength : docs.length = m.map.tilesets.length := by
            rw [← hfirst, List.length_map, (mapM_eq_ok_iff.mp hdocs).length_eq]
          exact ⟨rfl, hfirst ▸ hlength, fun i ref href => exists_isDocumentOf hrefs hdocs href,
            isSome_tilesetFor? hlength⟩

end Disk

namespace LoadedMap

/-! ### An example -/

def terrainText : String :=
  "<tileset name='t' tilewidth='8' tileheight='8' tilecount='2'><wangsets><wangset name='w' type='edge' tile='-1'/></wangsets></tileset>"

/-- A map that holds a plain tileset and refers to the file of another after a layer. -/
def terrainReferenceText : String :=
  "<map width='1' height='1' tilewidth='8' tileheight='8'><tileset firstgid='1' tilewidth='8' tileheight='8' tilecount='4'/><layer><data>7</data></layer><tileset firstgid='5' source='t.tsx'/></map>"

/-- The same map with the tileset of that file inside. -/
def terrainInlinedText : String :=
  "<map width='1' height='1' tilewidth='8' tileheight='8'><tileset firstgid='1' tilewidth='8' tileheight='8' tilecount='4'/><layer><data>7</data></layer><tileset name='t' firstgid='5' tilewidth='8' tileheight='8' tilecount='2'><wangsets><wangset name='w' type='edge' tile='-1'/></wangsets></tileset></map>"

def terrainFiles : List (Path × Path × String) :=
  [(⟨"d/t.tsx"⟩, ⟨"/d/t.tsx"⟩, terrainText), (⟨"d/a.tmx"⟩, ⟨"/d/a.tmx"⟩, terrainReferenceText),
    (⟨"d/b.tmx"⟩, ⟨"/d/b.tmx"⟩, terrainInlinedText)]

def terrainDisk : Disk := .ofTexts terrainFiles

theorem lookup_terrainFiles :
    terrainFiles.lookup ⟨"d/t.tsx"⟩ = some (⟨"/d/t.tsx"⟩, terrainText) ∧
      terrainFiles.lookup ⟨"d/a.tmx"⟩ = some (⟨"/d/a.tmx"⟩, terrainReferenceText) ∧
      terrainFiles.lookup ⟨"d/b.tmx"⟩ = some (⟨"/d/b.tmx"⟩, terrainInlinedText) :=
  ⟨rfl, rfl, rfl⟩

def terrainTileset : Tileset :=
  { mixedTileset 2 with name := "t" }

def terrainSets : List Wang.WangSet :=
  [.blank "w" .edge]

def terrain : LoadedMap where
  map :=
    { TileMap.blank 1 1 8 8 with
      tilesets := [⟨1, .embedded (mixedTileset 4)⟩, ⟨5, .embedded terrainTileset⟩],
      layers := [⟨"", true, .other, [7]⟩] }
  tilesets := [⟨none, mixedTileset 4, []⟩, ⟨none, terrainTileset, terrainSets⟩]

set_option maxRecDepth 4000 in
theorem load_terrain : terrainDisk.loadMapWithTilesets ⟨"d/b.tmx"⟩ = .ok terrain := by
  have hdir : Path.directory ⟨"d/b.tmx"⟩ = ⟨"d"⟩ := by decide +kernel
  have hmap : parseMapDocument terrainInlinedText ⟨"d"⟩ = .ok ⟨terrain.map, [[], terrainSets]⟩ :=
    (congrArg (fun e => Except.bind e (Document.readMapDocument ⟨"d"⟩))
      (Document.parseElement_of_toList terrainInlinedText String.toList_ofList)).trans
      (by decide +kernel)
  rw [← hdir] at hmap
  exact Disk.loadMapWithTilesets_ofTexts lookup_terrainFiles.2.2 hmap (.cons rfl (.cons rfl .nil))

/-- The second tileset of the example lies inside the map, and its document has the Wang
set of its element; a map that is not there fails in both ways. -/
theorem terrain_loaders_agree :
    terrainDisk.loadMap ⟨"d/c.tmx"⟩ = .error (.file ⟨"d/c.tmx"⟩ .notFound) ∧
      terrainDisk.loadMapWithTilesets ⟨"d/c.tmx"⟩ = .error (.file ⟨"d/c.tmx"⟩ .notFound) ∧
      terrainDisk.loadMap ⟨"d/b.tmx"⟩ = .ok terrain.map ∧
      ∃ root e, terrainDisk.root ⟨"d/b.tmx"⟩ = .ok root ∧
        (root.elementsNamed "tileset")[1]? = some e ∧
        (Document.wangSetElements e).mapM Document.readWangSet = .ok [.blank "w" .edge] := by
  have hmissing : terrainDisk.loadMap ⟨"d/c.tmx"⟩ = .error (.file ⟨"d/c.tmx"⟩ .notFound) := rfl
  have hmap := Disk.loadMap_of_loadMapWithTilesets load_terrain
  obtain ⟨herror, -⟩ := Disk.loadMapWithTilesets_agrees terrainDisk ⟨"d/c.tmx"⟩
  obtain ⟨-, hok⟩ := Disk.loadMapWithTilesets_agrees terrainDisk ⟨"d/b.tmx"⟩
  obtain ⟨-, -, root, hroot, hloaded⟩ := hok terrain.map hmap
  obtain ⟨-, -, hdocuments, -⟩ := hloaded terrain load_terrain
  obtain ⟨e, doc, he, hdoc, -, -, hsets⟩ := hdocuments 1 _ rfl
  cases hdoc
  exact ⟨hmissing, herror _ hmissing, hmap, root, e, hroot, he, hsets⟩

end LoadedMap

end TileAtlas
