/-
Reading documents from what is seen of them.

One lemma for each reader, from the inside out: an element and what is seen of it are read
alike, to the same result or the same error. So a tileset file and a map file are read from
what is seen of their root elements (`readTilesetDocument_seen`, `readMapDocument_seen`).
-/

import TileAtlas.Proofs.SeenElements

namespace TileAtlas.Document

open Fallible Markup
open Wang (WangSet)

/-! ### Readers of tilesets -/

theorem readTileOffset_seen (e : Element) :
    readTileOffset (e.seen .tileOffset) = readTileOffset e := by
  apply foldlM_attributes_seen
  · intro o a
    rfl
  · intro o a ha
    split
    · rename_i hname
      exact absurd (by simp [Kind.loopNames, hname]) ha
    · rename_i hname
      exact absurd (by simp [Kind.loopNames, hname]) ha
    · rfl

theorem readImage_seen (e : Element) : readImage (e.seen .image) = readImage e := by
  unfold readImage
  rw [foldlM_attributes_seen]
  · intro i a
    rfl
  · intro i a ha
    unfold readImageAttribute
    split
    case h_5 => rfl
    all_goals
      rename_i hname
      exact absurd (by simp [Kind.loopNames, hname]) ha

/-- The text is seen as far as it is read, for layer data without what stands around the fields. -/
theorem text?_seen {k : Kind} (hk : k.isText = true) (e : Element) :
    (e.seen k).text? =
      some (if k = .data then layerText e.leadingText else e.leadingText) := by
  simp only [Element.text?, Element.seen, hk, if_true, Kind.seenText, Element.leadingText_eq]

theorem readProperty_seen (e : Element) : readProperty (e.seen .property) = readProperty e := by
  unfold readProperty
  rw [attribute?_seen (by decide) (by decide), attribute?_seen (by decide) (by decide),
    attribute?_seen (by decide) (by decide), text?_seen rfl]
  -- Without a text, the value is empty in either case.
  cases e.attribute? "value" with
  | some value => rfl
  | none => simp [Element.leadingText]

theorem readProperties_seen (e : Element) :
    readProperties (e.seen .properties) = readProperties e := by
  have hcomp : readProperty ∘ Element.seen .property = readProperty := funext readProperty_seen
  unfold readProperties
  rw [elementsNamed_seen rfl rfl rfl (by decide) (by decide), List.mapM_map, hcomp]

theorem readTile_seen (e : Element) : readTile (e.seen .tile) = readTile e := by
  unfold readTile
  rw [attribute?_seen (by decide) (by decide), attribute?_seen (by decide) (by decide),
    attribute?_seen (by decide) (by decide), child?_seen rfl rfl (by decide) (by decide)]
  cases e.child? "properties" with
  | none => rfl
  | some p => simp only [Option.map_some, readProperties_seen]

theorem readWangColor_seen (e : Element) : readWangColor (e.seen .wangColor) = readWangColor e := by
  apply foldlM_attributes_seen
  · intro c a
    rfl
  · intro c a ha
    split
    case h_5 => rfl
    all_goals
      rename_i hname
      exact absurd (by simp [Kind.loopNames, hname]) ha

theorem readWangTile_seen (e : Element) : readWangTile (e.seen .wangTile) = readWangTile e := by
  unfold readWangTile
  rw [attribute?_seen (by decide) (by decide), attribute?_seen (by decide) (by decide)]

/-- One step over the children of a Wang set reads only what is seen. -/
theorem readWangSetChild_seen (s : WangSet) (c : Element) :
    readWangSetChild s (c.seen (Kind.wangSet.child c)) = readWangSetChild s c := by
  unfold readWangSetChild
  rw [name_seen]
  split
  · rename_i hname
    rw [Kind.child, hname]
    exact congrArg _ (readWangColor_seen c)
  · rename_i hname
    rw [Kind.child, hname]
    exact congrArg _ (readWangTile_seen c)
  · rfl

/-- A Wang set is read from what is seen of it. -/
theorem readWangSet_seen (e : Element) : readWangSet (e.seen .wangSet) = readWangSet e := by
  have hattributes (s : WangSet × Option Wang.SetType) :
      (e.seen .wangSet).attributes.foldlM readWangSetAttribute s =
        e.attributes.foldlM readWangSetAttribute s := by
    apply foldlM_attributes_seen
    · intro s a
      rfl
    · intro s a ha
      unfold readWangSetAttribute
      split
      case h_4 => rfl
      all_goals
        rename_i hname
        exact absurd (by simp [Kind.loopNames, hname]) ha
  have helements (s : WangSet) : (e.seen .wangSet).elements.foldlM readWangSetChild s =
      e.elements.foldlM readWangSetChild s := by
    apply foldlM_elements_seen rfl rfl
    · intro s c hc
      unfold readWangSetChild
      split
      case h_3 => rfl
      all_goals
        rename_i hname
        exact absurd (by simp [Kind.elementNames, Kind.inner, hname]) hc
    · exact readWangSetChild_seen
  unfold readWangSet
  simp only [hattributes, helements]

def Kind.IsTileset (k : Kind) : Prop :=
  k = .tileset ∨ k = .embedded

/-- One step over the children of a tileset reads only what is seen. -/
theorem readTilesetChild_seen {k : Kind} (hk : k.IsTileset) (t : Tileset × List WangSet)
    (c : Element) : readTilesetChild t (c.seen (k.child c)) = readTilesetChild t c := by
  have hinner : k.inner = Kind.tileset.inner := by
    rcases hk with rfl | rfl
    · rfl
    · rfl
  unfold readTilesetChild
  rw [name_seen]
  split
  · rename_i hname
    rw [Kind.child, hinner, hname]
    exact congrArg _ (readTileOffset_seen c)
  · rename_i hname
    rw [Kind.child, hinner, hname]
    exact congrArg _ (readImage_seen c)
  · rename_i hname
    rw [Kind.child, hinner, hname]
    exact congrArg _ (readProperties_seen c)
  · rename_i hname
    rw [Kind.child, hinner, hname]
    exact congrArg _ (readTile_seen c)
  · rename_i hname
    have hcomp : readWangSet ∘ Element.seen .wangSet = readWangSet := funext readWangSet_seen
    have hsets : ((c.seen .wangSets).elementsNamed "wangset").mapM readWangSet =
        (c.elementsNamed "wangset").mapM readWangSet := by
      rw [elementsNamed_seen rfl rfl rfl (by decide) (by decide), List.mapM_map, hcomp]
    rw [Kind.child, hinner, hname]
    exact congrArg _ hsets
  · rfl

/-- A tileset is read from what is seen of it, in a file of its own or inside a map. -/
theorem readTileset_seen {k : Kind} (hk : k.IsTileset) (e : Element) :
    readTileset (e.seen k) = readTileset e := by
  have hnames : k.loopNames = Kind.tileset.loopNames ∧ k.inner = Kind.tileset.inner ∧
      k.takesFirst = false ∧ k.isText = false := by
    rcases hk with rfl | rfl
    · decide
    · decide
  obtain ⟨hloop, hinner, hfirst, htext⟩ := hnames
  have hattributes (h : TilesetHead) : (e.seen k).attributes.foldlM readTilesetAttribute h =
      e.attributes.foldlM readTilesetAttribute h := by
    apply foldlM_attributes_seen
    · intro h a
      rfl
    · intro h a ha
      rw [hloop] at ha
      unfold readTilesetAttribute
      split
      case h_9 => rfl
      all_goals
        rename_i hname
        exact absurd (by simp [Kind.loopNames, hname]) ha
  have helements (t : Tileset × List WangSet) : (e.seen k).elements.foldlM readTilesetChild t =
      e.elements.foldlM readTilesetChild t := by
    apply foldlM_elements_seen hfirst htext
    · intro t c hc
      rw [Kind.elementNames, hinner] at hc
      unfold readTilesetChild
      split
      case h_6 => rfl
      all_goals
        rename_i hname
        exact absurd (by simp [Kind.inner, hname]) hc
    · exact readTilesetChild_seen hk
  unfold readTileset
  simp only [hattributes, helements]

/-- **A tileset file is read from what is seen of its root element.** -/
theorem readTilesetDocument_seen (e : Element) :
    readTilesetDocument (e.seen (Kind.tilesetFile.child e)) = readTilesetDocument e := by
  unfold readTilesetDocument
  rw [name_seen]
  by_cases hname : e.name = "tileset"
  · have hkind : Kind.tilesetFile.child e = .tileset := by
      rw [Kind.child, hname]
      rfl
    rw [if_pos hname, if_pos hname, hkind, readTileset_seen (.inl rfl)]
  · rw [if_neg hname, if_neg hname]

/-! ### Readers of maps -/

/-- Layer data is read from what is seen of its text. -/
theorem readLayerData_seen (layer : String) (data : Element) :
    readLayerData layer (data.seen .data) = readLayerData layer data := by
  have hgids : readLayerData.gids layer (data.seen .data) = readLayerData.gids layer data := by
    have hfields : layerFields ((data.seen .data).text?.getD "") =
        layerFields (data.text?.getD "") := by
      rw [text?_seen rfl]
      exact layerFields_layerText data.leadingText
    exact congrArg (List.mapM (readGid layer)) hfields
  unfold readLayerData
  rw [attribute?_seen (by decide) (by decide), attribute?_seen (by decide) (by decide), hgids]

/-- The attribute that hides a layer or a group is seen. -/
theorem isShown_seen {k : Kind} (hk : k = .group ∨ k = .layer) (e : Element) :
    isShown (e.seen k) = isShown e := by
  have hvisible : (e.seen k).attribute? "visible" = e.attribute? "visible" := by
    rcases hk with rfl | rfl
    · exact attribute?_seen (by decide) (by decide) e
    · exact attribute?_seen (by decide) (by decide) e
  unfold isShown
  rw [hvisible]

theorem readLayer_seen (width height : UInt32) (visible : Bool) (e : Element) :
    readLayer width height visible (e.seen .layer) = readLayer width height visible e := by
  unfold readLayer
  rw [attribute?_seen (by decide) (by decide), child?_seen rfl rfl (by decide) (by decide),
    isShown_seen (.inr rfl)]
  cases e.child? "data" with
  | none => rfl
  | some data => simp only [Option.map_some, readLayerData_seen]

/-- A node without layers adds none. -/
theorem readLayersIn_cons_of_nil {width height : UInt32} {visible : Bool} {n : Node}
    (hn : readLayers width height visible n = .ok []) (ns : List Node) :
    readLayersIn width height visible (n :: ns) = readLayersIn width height visible ns := by
  rw [readLayersIn, hn]
  cases readLayersIn width height visible ns with
  | error cause => rfl
  | ok layers => rfl

def Kind.HoldsLayers (k : Kind) : Prop :=
  k = .map ∨ k = .group

theorem Kind.HoldsLayers.child_layer {k : Kind} (hk : k.HoldsLayers) {c : Element}
    (hname : c.name = "layer") : k.child c = .layer := by
  rcases hk with rfl | rfl
  · rw [Kind.child, hname]
    rfl
  · rw [Kind.child, hname]
    rfl

theorem Kind.HoldsLayers.child_group {k : Kind} (hk : k.HoldsLayers) {c : Element}
    (hname : c.name = "group") : k.child c = .group := by
  rcases hk with rfl | rfl
  · rw [Kind.child, hname]
    rfl
  · rw [Kind.child, hname]
    rfl

/-- A hidden group hides everything inside. -/
theorem readLayers_group (width height : UInt32) (visible : Bool) {e : Element}
    (hname : e.name = "group") :
    readLayers width height visible e.node =
      readLayersIn width height (visible && isShown e) e.children := by
  rw [Element.node, readLayers, if_pos hname]

theorem readLayers_layer (width height : UInt32) (visible : Bool) {e : Element}
    (hname : e.name = "layer") :
    readLayers width height visible e.node =
      (readLayer width height visible e).map fun l => [l] := by
  have hgroup : ¬e.name = "group" := by
    rw [hname]
    decide
  rw [Element.node, readLayers, if_neg hgroup, if_pos hname]

mutual

/-- The layers of an element are those of what is seen of it. -/
theorem readLayers_seen (width height : UInt32) :
    ∀ (visible : Bool) (n : Node) (k : Kind), k.HoldsLayers → ∀ c, n.element? = some c →
      readLayers width height visible (c.seen (k.child c)).node = readLayers width height visible n
  | visible, .element name attributes children, k, hk, c, hc => by
      have hchildren : c.children = children := by
        cases hc
        rfl
      rw [Node.eq_node_of_element? hc]
      by_cases hgroup : c.name = "group"
      · rw [hk.child_group hgroup, readLayers_group _ _ _ (by exact hgroup),
          readLayers_group _ _ _ hgroup, isShown_seen (.inl rfl), hchildren,
          ← readLayersIn_seen width height (visible && isShown c) children,
          ← seenIn_eq_filterMap rfl [] children, ← hchildren]
        rfl
      · by_cases hlayer : c.name = "layer"
        · rw [hk.child_layer hlayer, readLayers_layer _ _ _ (by exact hlayer),
            readLayers_layer _ _ _ hlayer, readLayer_seen]
        · rw [readLayers_of_name _ _ _ (by exact hgroup) (by exact hlayer),
            readLayers_of_name _ _ _ hgroup hlayer]
  | _, .text _, _, _, _, hc => by cases hc
  | _, .comment _, _, _, _, hc => by cases hc
  | _, .instruction _, _, _, _, hc => by cases hc

/-- The layers below a group, to any depth, are read from what is seen. By recursion on the
nodes. -/
theorem readLayersIn_seen (width height : UInt32) :
    ∀ (visible : Bool) (ns : List Node),
      readLayersIn width height visible (ns.filterMap Kind.group.seenNode?) =
        readLayersIn width height visible ns
  | _, [] => rfl
  | visible, n :: ns => by
      have htail := readLayersIn_seen width height visible ns
      cases hn : n.element? with
      | none =>
          have hnone : readLayers width height visible n = .ok [] := by
            cases n with
            | element name attributes children => cases hn
            | _ => rfl
          rw [List.filterMap_cons_none (Kind.seenNode?_of_not_element hn), htail,
            readLayersIn_cons_of_nil hnone]
      | some c =>
          have hhead := readLayers_seen width height visible n .group (.inr rfl) c hn
          by_cases hc : Kind.group.child c = .unread
          · have hnames := Kind.child_eq_unread_iff.mp hc
            have hnone : readLayers width height visible n = .ok [] := by
              rw [Node.eq_node_of_element? hn]
              apply readLayers_of_name
              · intro hname
                exact hnames (by simp [Kind.elementNames, Kind.inner, hname])
              · intro hname
                exact hnames (by simp [Kind.elementNames, Kind.inner, hname])
            rw [List.filterMap_cons_none (Kind.seenNode?_of_unread hn hc), htail,
              readLayersIn_cons_of_nil hnone]
          · rw [List.filterMap_cons_some (Kind.seenNode?_of_read hn hc), readLayersIn,
              readLayersIn, hhead, htail]

end

/-- A tileset element of a map shows its first id and its source, and all of a tileset if
it has no source. -/
theorem readTilesetRef_seen (dir : Path) {c : Element} (hname : c.name = "tileset") :
    readTilesetRef dir (c.seen (Kind.map.child c)) = readTilesetRef dir c := by
  have hkind : Kind.map.child c =
      if (c.attribute? "source").isSome then .reference else .embedded := by
    rw [Kind.child, hname]
    simp [Kind.inner]
  unfold readTilesetRef
  cases hsource : c.attribute? "source" with
  | some source =>
      rw [hkind, hsource, Option.isSome_some, if_pos rfl, attribute?_seen (by decide) (by decide),
        attribute?_seen (by decide) (by decide), hsource]
  | none =>
      rw [hkind, hsource, Option.isSome_none, if_neg (by decide),
        attribute?_seen (by decide) (by decide), attribute?_seen (by decide) (by decide), hsource,
        readTileset_seen (.inr rfl)]

/-- One step over the children of a map reads only what is seen. -/
theorem readMapNode_seen (dir : Path) (m : MapDocument) {n : Node} {c : Element}
    (hn : n.element? = some c) :
    readMapNode dir m (c.seen (Kind.map.child c)).node = readMapNode dir m n := by
  have hlayers := readLayers_seen m.map.width m.map.height true n .map (.inl rfl) c hn
  unfold readMapNode
  rw [element?_node, hn]
  by_cases hname : c.name = "tileset"
  · have hseen : (c.seen (Kind.map.child c)).name = "tileset" := hname
    simp only [if_pos hname, if_pos hseen, readTilesetRef_seen dir hname]
  · have hseen : (c.seen (Kind.map.child c)).name ≠ "tileset" := hname
    simp only [if_neg hname, if_neg hseen, hlayers]

/-- A map passes over nodes that are no elements and elements that it does not look at. -/
theorem readMapNode_of_seenNode?_eq_none (dir : Path) (m : MapDocument) {n : Node}
    (hseen : Kind.map.seenNode? n = none) : readMapNode dir m n = .ok m := by
  unfold readMapNode
  cases hn : n.element? with
  | none => rfl
  | some c =>
      have hunread : Kind.map.child c = .unread := by
        by_contra hc
        rw [Kind.seenNode?_of_read hn hc] at hseen
        cases hseen
      have hnames := Kind.child_eq_unread_iff.mp hunread
      simp only [Kind.elementNames, Kind.inner, List.map_cons, List.map_nil, List.mem_cons,
        List.not_mem_nil, or_false, not_or] at hnames
      obtain ⟨htileset, hlayer, hgroup⟩ := hnames
      rw [Node.eq_node_of_element? hn]
      simp only [if_neg htileset, readLayers_of_name _ _ _ hgroup hlayer, Except.map,
        List.append_nil]

/-- **A map file is read from what is seen of its root element.** -/
theorem readMapDocument_seen (dir : Path) (e : Element) :
    readMapDocument dir (e.seen (Kind.mapFile.child e)) = readMapDocument dir e := by
  unfold readMapDocument
  rw [name_seen]
  by_cases hname : e.name = "map"
  · have hkind : Kind.mapFile.child e = .map := by
      rw [Kind.child, hname]
      rfl
    have hattributes : (e.seen .map).attributes.foldlM readMapAttribute MapHead.empty =
        e.attributes.foldlM readMapAttribute MapHead.empty := by
      apply foldlM_attributes_seen
      · intro h a
        rfl
      · intro h a ha
        unfold readMapAttribute
        split
        case h_7 => rfl
        all_goals
          rename_i hname
          exact absurd (by simp [Kind.loopNames, hname]) ha
    have hnodes (m : MapDocument) : (e.seen .map).children.foldlM (readMapNode dir) m =
        e.children.foldlM (readMapNode dir) m := by
      have hchildren : (e.seen .map).children = e.children.filterMap Kind.map.seenNode? :=
        seenIn_eq_filterMap rfl [] e.children
      rw [hchildren]
      apply foldlM_filterMap
      · intro n _ hnone m
        exact readMapNode_of_seenNode?_eq_none dir m hnone
      · intro n _ n' hsome m
        unfold Kind.seenNode? at hsome
        obtain ⟨c, hn, hc⟩ := Option.bind_eq_some_iff.mp hsome
        split at hc
        · cases hc
        · cases hc
          exact readMapNode_seen dir m hn
    rw [if_pos hname, if_pos hname, hkind]
    simp only [hattributes, hnodes]
  · rw [if_neg hname, if_neg hname]

end TileAtlas.Document
