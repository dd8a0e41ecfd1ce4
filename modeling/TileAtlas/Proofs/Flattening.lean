/-
Layers inside groups, place by place.

The place of a layer element is the way to it: its position among the nodes of the
outermost group, then among those of the next, and so on. Document order is the order of
places (`placedLayersIn_sorted`), and a place is in the list of layers exactly if the way
to it goes through groups only and ends at a layer (`mem_placedLayersIn_iff`). So what a
map is read from has every such layer once, in document order, and a layer is shown if it
and all groups on the way are.

A layer that cannot be read is at fault in one of four ways (`LayerFault`). Reading goes in
document order too, so the first layer at fault is the one that is reported, unless a
tileset before it cannot be read (`readMapNodes_eq_error`).
-/

import TileAtlas.Proofs.LayerElements

namespace TileAtlas

open Fallible Markup

namespace Document

/-! ### Places -/

/-- A layer element stands at a place among nodes, with groups only around it. The groups
are listed from the outermost one in. -/
inductive LayerAt : List Node → List Nat → List Element → Element → Prop where
  | layer {ns : List Node} {i : Nat} {e : Element} (hnode : ns[i]? = some e.node)
      (hname : e.name = "layer") : LayerAt ns [i] [] e
  | inside {ns : List Node} {i : Nat} {g : Element} {place : List Nat} {groups : List Element}
      {e : Element} (hnode : ns[i]? = some g.node) (hname : g.name = "group")
      (hin : LayerAt g.children place groups e) : LayerAt ns (i :: place) (g :: groups) e

/-- A layer element with its place and the groups around it. -/
structure PlacedLayer where
  place : List Nat
  groups : List Element
  layer : Element

def PlacedLayer.inside (i : Nat) (g : Element) (p : PlacedLayer) : PlacedLayer :=
  ⟨i :: p.place, g :: p.groups, p.layer⟩

mutual

def placedLayers (i : Nat) : Node → List PlacedLayer
  | .element name attributes children =>
    let e : Element := ⟨name, attributes, children⟩
    if name = "group" then (placedLayersIn 0 children).map (.inside i e)
    else if name = "layer" then [⟨[i], [], e⟩]
    else []
  | _ => []

/-- The layers of the nodes from place `i` on. -/
def placedLayersIn (i : Nat) : List Node → List PlacedLayer
  | [] => []
  | n :: ns => placedLayers i n ++ placedLayersIn (i + 1) ns

end

variable {i : Nat} {n : Node} {ns : List Node} {p : PlacedLayer} {e : Element}

/-- A group holds the layers of its children, each one place deeper. -/
theorem placedLayers_group (i : Nat) (hname : e.name = "group") :
    placedLayers i e.node = (placedLayersIn 0 e.children).map (.inside i e) := by
  rw [Element.node, placedLayers, if_pos hname]

/-- A layer is the only layer in itself. -/
theorem placedLayers_layer (i : Nat) (hname : e.name = "layer") :
    placedLayers i e.node = [⟨[i], [], e⟩] := by
  rw [Element.node, placedLayers, if_neg (by rw [hname]; decide), if_pos hname]

/-- A node with layers is a group or a layer. -/
theorem exists_node_of_mem_placedLayers (hp : p ∈ placedLayers i n) :
    ∃ e : Element, n = e.node ∧ (e.name = "group" ∨ e.name = "layer") := by
  unfold placedLayers at hp
  split at hp
  · rename_i name attributes children
    refine ⟨⟨name, attributes, children⟩, rfl, ?_⟩
    simp only at hp
    split at hp
    · exact .inl ‹_›
    · split at hp
      · exact .inr ‹_›
      · cases hp
  · cases hp

theorem placedLayersIn_append (i : Nat) (before after : List Node) :
    placedLayersIn i (before ++ after) =
      placedLayersIn i before ++ placedLayersIn (i + before.length) after := by
  induction before generalizing i with
  | nil => rfl
  | cons n before ih =>
      rw [List.cons_append, placedLayersIn, ih, placedLayersIn, List.append_assoc,
        List.length_cons, Nat.add_assoc, Nat.add_comm 1]

/-- A list is cut at a position into what is before, the member there, and what is after. -/
theorem exists_append_of_getElem? (h : ns[i]? = some n) :
    ∃ before after, ns = before ++ n :: after ∧ before.length = i := by
  obtain ⟨hi, rfl⟩ := List.getElem?_eq_some_iff.mp h
  refine ⟨ns.take i, ns.drop (i + 1), ?_, List.length_take_of_le (Nat.le_of_lt hi)⟩
  rw [← List.drop_eq_getElem_cons hi, List.take_append_drop]

theorem mem_placedLayersIn_of_getElem? (hnode : ns[i]? = some n) (hp : p ∈ placedLayers i n) :
    p ∈ placedLayersIn 0 ns := by
  obtain ⟨before, after, rfl, rfl⟩ := exists_append_of_getElem? hnode
  rw [placedLayersIn_append, Nat.zero_add, placedLayersIn]
  exact List.mem_append_right _ (List.mem_append_left _ hp)

/-- A layer belongs to the node that its place starts with. -/
theorem exists_mem_placedLayers_of_layerAt {place : List Nat} {groups : List Element}
    (h : LayerAt ns place groups e) :
    ∃ i n, ns[i]? = some n ∧ ⟨place, groups, e⟩ ∈ placedLayers i n := by
  induction h with
  | layer hnode hname =>
      refine ⟨_, _, hnode, ?_⟩
      rw [placedLayers_layer _ hname]
      exact List.mem_singleton_self _
  | inside hnode hname _ ih =>
      refine ⟨_, _, hnode, ?_⟩
      rw [placedLayers_group _ hname]
      obtain ⟨i, n, hin, hmem⟩ := ih
      exact List.mem_map_of_mem (mem_placedLayersIn_of_getElem? hin hmem)

mutual

/-- The places the list records lead to its layers. By recursion on the node, as in the reader. -/
theorem layerAt_of_mem_placedLayers :
    ∀ (n : Node) {i : Nat} {ns : List Node} {p : PlacedLayer}, ns[i]? = some n →
      p ∈ placedLayers i n → LayerAt ns p.place p.groups p.layer
  | .element name attributes children, i, ns, p, hnode, hp => by
      rw [placedLayers] at hp
      by_cases hgroup : name = "group"
      · rw [if_pos hgroup] at hp
        obtain ⟨q, hq, rfl⟩ := List.mem_map.mp hp
        exact .inside hnode hgroup (layerAt_of_mem_placedLayersIn children [] hq)
      · rw [if_neg hgroup] at hp
        by_cases hlayer : name = "layer"
        · rw [if_pos hlayer] at hp
          rw [List.mem_singleton.mp hp]
          exact .layer hnode hlayer
        · rw [if_neg hlayer] at hp
          cases hp
  | .text _, _, _, _, _, hp => by cases hp
  | .comment _, _, _, _, _, hp => by cases hp
  | .instruction _, _, _, _, _, hp => by cases hp

theorem layerAt_of_mem_placedLayersIn :
    ∀ (ns before : List Node) {p : PlacedLayer}, p ∈ placedLayersIn before.length ns →
      LayerAt (before ++ ns) p.place p.groups p.layer
  | [], _, _, hp => by cases hp
  | n :: ns, before, p, hp => by
      rw [placedLayersIn] at hp
      rcases List.mem_append.mp hp with hp | hp
      · exact layerAt_of_mem_placedLayers n (by simp) hp
      · -- Places count from the first node, so the node goes over to those before.
        have hrest := layerAt_of_mem_placedLayersIn ns (before ++ [n]) (p := p)
        rw [List.length_append, List.length_singleton, List.append_assoc] at hrest
        exact hrest hp

end

/-- **Which layers there are**: those that are reached through groups only. -/
theorem mem_placedLayersIn_iff :
    p ∈ placedLayersIn 0 ns ↔ LayerAt ns p.place p.groups p.layer := by
  constructor
  · exact layerAt_of_mem_placedLayersIn ns []
  · intro h
    obtain ⟨i, n, hnode, hp⟩ := exists_mem_placedLayers_of_layerAt h
    exact mem_placedLayersIn_of_getElem? hnode hp

/-! ### Document order -/

/-- All layers below one node share the first step of their place. -/
theorem exists_place_eq_cons_of_mem_placedLayers (hp : p ∈ placedLayers i n) :
    ∃ rest, p.place = i :: rest := by
  obtain ⟨e, rfl, hgroup | hlayer⟩ := exists_node_of_mem_placedLayers hp
  · rw [placedLayers_group _ hgroup] at hp
    obtain ⟨q, -, rfl⟩ := List.mem_map.mp hp
    exact ⟨q.place, rfl⟩
  · rw [placedLayers_layer _ hlayer] at hp
    rw [List.mem_singleton.mp hp]
    exact ⟨[], rfl⟩

theorem exists_place_eq_cons_of_mem_placedLayersIn (hp : p ∈ placedLayersIn i ns) :
    ∃ j rest, i ≤ j ∧ p.place = j :: rest := by
  induction ns generalizing i with
  | nil => cases hp
  | cons n ns ih =>
      rw [placedLayersIn] at hp
      rcases List.mem_append.mp hp with hp | hp
      · obtain ⟨rest, hplace⟩ := exists_place_eq_cons_of_mem_placedLayers hp
        exact ⟨i, rest, Nat.le_refl i, hplace⟩
      · obtain ⟨j, rest, hle, hplace⟩ := ih hp
        exact ⟨j, rest, Nat.le_of_succ_le hle, hplace⟩

/-- One layer comes before another in the document. -/
def PlacedLayer.Before (p q : PlacedLayer) : Prop :=
  p.place < q.place

mutual

/-- The layers come in the order of their places, strictly ascending. -/
theorem placedLayers_sorted :
    ∀ (n : Node) (i : Nat), (placedLayers i n).Pairwise PlacedLayer.Before
  | .element name attributes children, i => by
      rw [placedLayers]
      by_cases hgroup : name = "group"
      · rw [if_pos hgroup]
        refine List.pairwise_map.mpr ((placedLayersIn_sorted children 0).imp ?_)
        intro p q hpq
        exact List.Lex.cons hpq
      · rw [if_neg hgroup]
        by_cases hlayer : name = "layer"
        · rw [if_pos hlayer]
          exact List.pairwise_singleton _ _
        · rw [if_neg hlayer]
          exact .nil
  | .text _, _ => .nil
  | .comment _, _ => .nil
  | .instruction _, _ => .nil

/-- **Layers are listed in document order.** -/
theorem placedLayersIn_sorted :
    ∀ (ns : List Node) (i : Nat), (placedLayersIn i ns).Pairwise PlacedLayer.Before
  | [], _ => .nil
  | n :: ns, i => by
      rw [placedLayersIn]
      refine List.pairwise_append.mpr
        ⟨placedLayers_sorted n i, placedLayersIn_sorted ns (i + 1), ?_⟩
      intro p hp q hq
      obtain ⟨rest, hplace⟩ := exists_place_eq_cons_of_mem_placedLayers hp
      obtain ⟨j, rest', hij, hplace'⟩ := exists_place_eq_cons_of_mem_placedLayersIn hq
      rw [PlacedLayer.Before, hplace, hplace']
      exact List.Lex.rel hij

end

/-! ### Visibility -/

/-- A layer element with whether all groups around it are shown. -/
def PlacedLayer.shown (visible : Bool) (p : PlacedLayer) : Bool × Element :=
  (visible && p.groups.all isShown, p.layer)

mutual

/-- The code's own flattening visits the same layers in the same order. -/
theorem layerElements_eq_map (visible : Bool) :
    ∀ (n : Node) (i : Nat),
      layerElements visible n = (placedLayers i n).map (PlacedLayer.shown visible)
  | .element name attributes children, i => by
      rw [layerElements, placedLayers]
      by_cases hgroup : name = "group"
      · simp only [if_pos hgroup]
        rw [layerElementsIn_eq_map _ children 0, List.map_map]
        apply List.map_congr_left
        intro p _
        simp only [PlacedLayer.shown, PlacedLayer.inside, Function.comp_apply, List.all_cons,
          Bool.and_assoc]
      · by_cases hlayer : name = "layer"
        · simp [if_neg hgroup, if_pos hlayer, PlacedLayer.shown]
        · simp only [if_neg hgroup, if_neg hlayer, List.map_nil]
  | .text _, _ => rfl
  | .comment _, _ => rfl
  | .instruction _, _ => rfl

theorem layerElementsIn_eq_map (visible : Bool) :
    ∀ (ns : List Node) (i : Nat),
      layerElementsIn visible ns = (placedLayersIn i ns).map (PlacedLayer.shown visible)
  | [], _ => rfl
  | n :: ns, i => by
      rw [layerElementsIn, placedLayersIn, List.map_append, layerElements_eq_map visible n i,
        layerElementsIn_eq_map visible ns (i + 1)]

end

def IsHidden (e : Element) : Prop :=
  ∃ value, e.attribute? "visible" = some value ∧ Text.trim value = "0"

theorem isShown_iff : isShown e = true ↔ ¬ IsHidden e := by
  unfold isShown IsHidden
  cases e.attribute? "visible" with
  | none => simp
  | some value => simp

/-! ### Layers at fault -/

/-- What may be wrong with the data of a layer: it is compressed, in an encoding that is
not read, or a field of it is no number. Only the first such field counts. -/
inductive DataFault (layer : String) (data : Element) : ReadError → Prop where
  | compressed {compression : String}
      (hcompression : data.attribute? "compression" = some compression) :
      DataFault layer data (.unsupportedEncoding layer compression)
  | encoded {encoding : String} (hcompression : data.attribute? "compression" = none)
      (hencoding : data.attribute? "encoding" = some encoding) (hcsv : encoding ≠ "csv") :
      DataFault layer data (.unsupportedEncoding layer encoding)
  | field {before after : List String} {field : String} (hplain : IsPlainData data)
      (hfields : layerFields data.leadingText = before ++ field :: after)
      (hbefore : ∀ f ∈ before, ∃ value, Text.uint32? f = some value)
      (hfield : Text.uint32? field = none) :
      DataFault layer data (.invalidLayerData layer field)

/-- What may be wrong with a layer: it has no data, or its data is at fault. -/
inductive LayerFault (e : Element) : ReadError → Prop where
  | missing (hdata : e.child? "data" = none) : LayerFault e (.missingElement "data")
  | data {data : Element} {cause : ReadError} (hdata : e.child? "data" = some data)
      (hfault : DataFault (layerName e) data cause) : LayerFault e cause

variable {cause : ReadError}

/-- The gids of a layer fail at the first field that is no number. -/
theorem mapM_readGid_eq_error_iff {layer : String} {fields : List String} :
    fields.mapM (readGid layer) = .error cause ↔
      ∃ before field after, fields = before ++ field :: after ∧
        (∀ f ∈ before, ∃ value, Text.uint32? f = some value) ∧ Text.uint32? field = none ∧
        cause = .invalidLayerData layer field := by
  have hok : ∀ field, (∃ value, readGid layer field = .ok value) ↔
      ∃ value, Text.uint32? field = some value := by
    intro field
    unfold readGid
    cases Text.uint32? field with
    | none => simp
    | some value => simp
  have herror : ∀ field, readGid layer field = .error cause ↔
      Text.uint32? field = none ∧ cause = .invalidLayerData layer field := by
    intro field
    unfold readGid
    cases Text.uint32? field with
    | none => simp [eq_comm]
    | some value => simp
  simp only [mapM_eq_error_iff, hok, herror]

/-- Plain data is read field by field; any other encoding is refused before that. -/
theorem readLayerData_of_isPlainData {data : Element} (hplain : IsPlainData data) (layer : String) :
    readLayerData layer data = (layerFields data.leadingText).mapM (readGid layer) := by
  obtain ⟨hcompression, hencoding | hencoding⟩ := hplain
  · simp only [readLayerData, hcompression, hencoding]
    rfl
  · simp only [readLayerData, hcompression, hencoding, if_true]
    rfl

/-- The faults of a data element, and the error each one is reported as. -/
theorem readLayerData_eq_error_iff {layer : String} {data : Element} :
    readLayerData layer data = .error cause ↔ DataFault layer data cause := by
  by_cases hplain : IsPlainData data
  · rw [readLayerData_of_isPlainData hplain, mapM_readGid_eq_error_iff]
    constructor
    · rintro ⟨before, field, after, hfields, hbefore, hfield, rfl⟩
      exact .field hplain hfields hbefore hfield
    · intro h
      cases h with
      | compressed hcompression => cases hplain.1.symm.trans hcompression
      | encoded _ hencoding hcsv =>
          rcases hplain.2 with hnone | hsome
          · cases hnone.symm.trans hencoding
          · cases hsome.symm.trans hencoding
            exact absurd rfl hcsv
      | field _ hfields hbefore hfield => exact ⟨_, _, _, hfields, hbefore, hfield, rfl⟩
  · constructor
    · intro h
      unfold readLayerData at h
      split at h
      · rename_i hcompression
        cases h
        exact .compressed hcompression
      · rename_i hcompression hencoding
        split at h
        · rename_i hcsv
          exact absurd ⟨hcompression, .inr (hcsv ▸ hencoding)⟩ hplain
        · rename_i hcsv
          cases h
          exact .encoded hcompression hencoding hcsv
      · rename_i hcompression hencoding
        exact absurd ⟨hcompression, .inl hencoding⟩ hplain
    · intro h
      cases h with
      | compressed hcompression => simp only [readLayerData, hcompression]
      | encoded hcompression hencoding hcsv =>
          simp only [readLayerData, hcompression, hencoding, if_neg hcsv]
      | field hplain' => exact absurd hplain' hplain

/-- **A layer cannot be read exactly if it is at fault**, whatever the size of the map. -/
theorem readLayer_eq_error_iff {width height : UInt32} {visible : Bool} :
    readLayer width height visible e = .error cause ↔ LayerFault e cause := by
  unfold readLayer
  constructor
  · intro h
    cases hdata : e.child? "data" with
    | none =>
        rw [hdata] at h
        cases h
        exact .missing hdata
    | some data =>
        rw [hdata] at h
        exact .data hdata (readLayerData_eq_error_iff.mp (map_eq_error_iff.mp h))
  · intro h
    cases h with
    | missing hdata =>
        rw [hdata]
        rfl
    | data hdata hfault =>
        rw [hdata]
        exact map_eq_error_iff.mpr (readLayerData_eq_error_iff.mpr hfault)

/-- A layer is read just when it has no fault. -/
theorem exists_readLayer_iff {width height : UInt32} {visible : Bool} :
    (∃ l, readLayer width height visible e = .ok l) ↔ ∀ cause, ¬ LayerFault e cause := by
  have hfault : ∀ cause, readLayer width height visible e = .error cause ↔ LayerFault e cause :=
    fun cause => readLayer_eq_error_iff
  simp only [← hfault]
  cases readLayer width height visible e with
  | error cause => simp
  | ok l => simp

/-! ### What is read -/

/-- The layer that a layer element inside groups is read as, on a grid of the given size. -/
structure IsLayerOf (width height : UInt32) (groups : List Element) (e : Element) (l : Layer) :
    Prop where
  name_eq : l.name = layerName e
  role_eq : l.role = Role.ofName (layerName e)
  visible_iff : l.visible = true ↔ ¬ IsHidden e ∧ ∀ g ∈ groups, ¬ IsHidden g
  length_gids : l.gids.length = width.toNat * height.toNat
  gids_eq : ∃ data values, e.child? "data" = some data ∧ FieldValues data.leadingText values ∧
    l.gids = resize (width.toNat * height.toNat) 0 values

/-- The layer that is read takes its visibility from all its groups and its role from its name. -/
theorem isLayerOf_of_readLayerElement {width height : UInt32} {l : Layer}
    (hread : readLayerElement width height (p.shown true) = .ok l) :
    IsLayerOf width height p.groups p.layer l := by
  obtain ⟨data, values, hdata, -, hvalues, rfl⟩ := readLayer_eq_ok_iff.mp hread
  refine ⟨rfl, rfl, ?_, length_resize _ _ _, data, values, hdata, hvalues, rfl⟩
  simp only [PlacedLayer.shown, Bool.true_and, Bool.and_eq_true, List.all_eq_true, isShown_iff]
  exact and_comm

/-! ### The first fault -/

/-- No layer before a place is at fault. -/
def LayersReadBefore (ns : List Node) (place : List Nat) : Prop :=
  ∀ q groups e, LayerAt ns q groups e → q < place → ∀ cause, ¬ LayerFault e cause

/-- All tilesets before a place can be read. -/
def TilesetsReadBefore (dir : Path) (ns : List Node) (place : List Nat) : Prop :=
  ∀ i e, ns[i]? = some e.node → e.name = "tileset" → [i] < place →
    ∃ ref, readTilesetRef dir e = .ok ref

/-- In a sorted list the first element that fails decides the error. -/
theorem mapM_eq_error_of_first {α β : Type} {R : α → α → Prop} {f : α → Read β} {xs : List α}
    {x : α} (hsorted : xs.Pairwise R) (hx : x ∈ xs) (hfails : f x = .error cause)
    (hbefore : ∀ y ∈ xs, R y x → ∃ b, f y = .ok b) : xs.mapM f = .error cause := by
  obtain ⟨before, after, rfl⟩ := List.append_of_mem hx
  refine mapM_eq_error_iff.mpr ⟨before, x, after, rfl, ?_, hfails⟩
  intro y hy
  have hyx := (List.pairwise_append.mp hsorted).2.2 y hy x List.mem_cons_self
  exact hbefore y (List.mem_append_left _ hy) hyx

section FirstFault

variable {dir : Path} {place : List Nat} {groups : List Element} {m : MapDocument}

/-- A node with the first layer at fault fails as that layer does. -/
theorem readMapNode_eq_error (hp : p ∈ placedLayers i n) (hfault : LayerFault p.layer cause)
    (hbefore : ∀ q ∈ placedLayers i n, q.Before p → ∀ cause, ¬ LayerFault q.layer cause) :
    readMapNode dir m n = .error cause := by
  have hlayers : readLayers m.map.width m.map.height true n = .error cause := by
    rw [readLayers_eq_mapM, layerElements_eq_map true n i, List.mapM_map]
    refine mapM_eq_error_of_first (placedLayers_sorted n i) hp
      (readLayer_eq_error_iff.mpr hfault) ?_
    intro q hq hqp
    exact exists_readLayer_iff.mpr (hbefore q hq hqp)
  obtain ⟨g, rfl, hname⟩ := exists_node_of_mem_placedLayers hp
  have htileset : g.name ≠ "tileset" := by
    rcases hname with hname | hname
    · rw [hname]
      decide
    · rw [hname]
      decide
  have helement : g.node.element? = some g := rfl
  simp only [readMapNode, helement, if_neg htileset, hlayers]
  rfl

/-- Nodes are read exactly if their tilesets and their layers can be read. -/
theorem exists_readMapNodes_iff :
    (∃ m', ns.foldlM (readMapNode dir) m = .ok m') ↔
      (∀ e ∈ tilesetElements ns, ∃ ref, readTilesetRef dir e = .ok ref) ∧
        ∀ q ∈ placedLayersIn 0 ns, ∀ cause, ¬ LayerFault q.layer cause := by
  have hlayers : (∃ layers, readLayersIn m.map.width m.map.height true ns = .ok layers) ↔
      ∀ q ∈ placedLayersIn 0 ns, ∀ cause, ¬ LayerFault q.layer cause := by
    rw [readLayersIn_eq_mapM, layerElementsIn_eq_map true ns 0, List.mapM_map,
      exists_mapM_eq_ok_iff]
    exact forall₂_congr fun q _ => exists_readLayer_iff
  rw [← exists_mapM_eq_ok_iff, ← hlayers]
  constructor
  · rintro ⟨m', hm'⟩
    obtain ⟨refs, layers, hrefs, hlayers, -⟩ := readMapNodes_eq_ok_iff.mp hm'
    exact ⟨⟨refs, hrefs⟩, layers, hlayers⟩
  · rintro ⟨⟨refs, hrefs⟩, layers, hlayers⟩
    exact ⟨_, readMapNodes_eq_ok_iff.mpr ⟨refs, layers, hrefs, hlayers, rfl⟩⟩

/-- A tileset element is one of the nodes. -/
theorem exists_getElem?_of_mem_tilesetElements (he : e ∈ tilesetElements ns) :
    ∃ i, i < ns.length ∧ ns[i]? = some e.node ∧ e.name = "tileset" := by
  obtain ⟨helement, hname⟩ := List.mem_filter.mp he
  obtain ⟨n, hn, hne⟩ := List.mem_filterMap.mp helement
  rw [Node.eq_node_of_element? hne] at hn
  obtain ⟨i, hi, hnode⟩ := List.mem_iff_getElem.mp hn
  exact ⟨i, hi, List.getElem?_eq_some_iff.mpr ⟨hi, hnode⟩, beq_iff_eq.mp hname⟩

/-- **The first layer at fault is the one that is reported**, if all tilesets before it can
be read. -/
theorem readMapNodes_eq_error (hat : LayerAt ns place groups e) (hfault : LayerFault e cause)
    (hlayers : LayersReadBefore ns place) (htilesets : TilesetsReadBefore dir ns place) :
    ns.foldlM (readMapNode dir) m = .error cause := by
  obtain ⟨i, n, hnode, hp⟩ := exists_mem_placedLayers_of_layerAt hat
  obtain ⟨rest, rfl⟩ := exists_place_eq_cons_of_mem_placedLayers hp
  obtain ⟨before, after, rfl, rfl⟩ := exists_append_of_getElem? hnode
  have hread : ∀ q ∈ placedLayersIn 0 (before ++ n :: after), q.place < before.length :: rest →
      ∀ cause, ¬ LayerFault q.layer cause := by
    intro q hq hlt
    exact hlayers q.place q.groups q.layer (mem_placedLayersIn_iff.mp hq) hlt
  have hsorted := placedLayersIn_sorted (before ++ n :: after) 0
  rw [placedLayersIn_append, Nat.zero_add, placedLayersIn] at hread hsorted
  -- All nodes before the one with the layer are read; that node fails at its first fault.
  obtain ⟨m', hm'⟩ : ∃ m', before.foldlM (readMapNode dir) m = .ok m' := by
    refine exists_readMapNodes_iff.mpr ⟨?_, ?_⟩
    · intro t ht
      obtain ⟨j, hj, hnode, hname⟩ := exists_getElem?_of_mem_tilesetElements ht
      exact htilesets j t ((List.getElem?_append_left hj).trans hnode) hname (.rel hj)
    · intro q hq
      have hqp := (List.pairwise_append.mp hsorted).2.2 q hq _ (List.mem_append_left _ hp)
      exact hread q (List.mem_append_left _ hq) hqp
  have hfails : readMapNode dir m' n = .error cause := by
    refine readMapNode_eq_error hp hfault ?_
    intro q hq
    exact hread q (List.mem_append_right _ (List.mem_append_left _ hq))
  rw [List.foldlM_append, hm']
  change (n :: after).foldlM (readMapNode dir) m' = .error cause
  rw [List.foldlM_cons, hfails]
  rfl

end FirstFault

end Document

open Document

section Maps

variable {text : String} {dir : Path} {root : Element} {sizes : TileMap}

/-- A map whose attributes are valid is what its nodes add to its sizes. -/
theorem parseMap_eq_of_readMapSizes (hroot : Element.parse? text = some root)
    (hname : root.name = "map") (hsizes : readMapSizes root = .ok sizes) :
    parseMap text dir =
      (root.children.foldlM (readMapNode dir) ⟨sizes, []⟩).map (·.map) := by
  obtain ⟨head, hhead, hsizes⟩ := bind_eq_ok_iff.mp hsizes
  have hread : readMapDocument dir root =
      root.children.foldlM (readMapNode dir) ⟨sizes, []⟩ := by
    rw [readMapDocument, if_pos hname, hhead]
    change head.toMap >>= _ = _
    rw [hsizes]
    rfl
  rw [parseMap, parseMapDocument, parseElement_eq_ok_iff.mpr hroot, ← hread]
  rfl

/-- The layers of a map are read from the places that are reached through groups only. -/
theorem exists_places_of_parseMap {m : TileMap} (hroot : Element.parse? text = some root)
    (hsizes : readMapSizes root = .ok sizes) (h : parseMap text dir = .ok m) :
    m.width = sizes.width ∧ m.height = sizes.height ∧
      ∃ places : List (List Nat), places.Pairwise (· < ·) ∧
        (∀ place, place ∈ places ↔ ∃ groups e, LayerAt root.children place groups e) ∧
        List.Forall₂ (fun place l => ∃ groups e, LayerAt root.children place groups e ∧
          IsLayerOf m.width m.height groups e l) places m.layers := by
  obtain ⟨root', sizes', refs, layers, hroot', -, hsizes', -, hlayers, rfl⟩ :=
    parseMap_eq_ok_iff.mp h
  cases hroot.symm.trans hroot'
  cases hsizes.symm.trans hsizes'
  refine ⟨rfl, rfl, (placedLayersIn 0 root.children).map PlacedLayer.place,
    List.pairwise_map.mpr (placedLayersIn_sorted root.children 0), ?_, ?_⟩
  · intro place
    rw [List.mem_map]
    constructor
    · rintro ⟨p, hp, rfl⟩
      exact ⟨p.groups, p.layer, mem_placedLayersIn_iff.mp hp⟩
    · rintro ⟨groups, e, hat⟩
      exact ⟨⟨place, groups, e⟩, mem_placedLayersIn_iff.mpr hat, rfl⟩
  · rw [layerElementsIn_eq_map true root.children 0, List.forall₂_map_left_iff] at hlayers
    have hat : ∀ p ∈ placedLayersIn 0 root.children,
        LayerAt root.children p.place p.groups p.layer := fun p => mem_placedLayersIn_iff.mp
    rw [List.forall₂_map_left_iff]
    refine ((List.forall₂_and_left _ _).mpr ⟨hat, hlayers⟩).imp ?_
    rintro p l ⟨hat, hread⟩
    exact ⟨p.groups, p.layer, hat, isLayerOf_of_readLayerElement hread⟩

/-- A map is read exactly if its tilesets can be read and none of its layers is at fault. -/
theorem exists_parseMap_iff (hroot : Element.parse? text = some root) (hname : root.name = "map")
    (hsizes : readMapSizes root = .ok sizes) :
    (∃ m, parseMap text dir = .ok m) ↔
      (∀ e ∈ root.elementsNamed "tileset", ∃ ref, readTilesetRef dir e = .ok ref) ∧
        ∀ place groups e, LayerAt root.children place groups e → ∀ cause, ¬ LayerFault e cause := by
  have hlayers : (∀ place groups e, LayerAt root.children place groups e →
      ∀ cause, ¬ LayerFault e cause) ↔
      ∀ q ∈ placedLayersIn 0 root.children, ∀ cause, ¬ LayerFault q.layer cause := by
    constructor
    · intro h q hq
      exact h q.place q.groups q.layer (mem_placedLayersIn_iff.mp hq)
    · intro h place groups e hat
      exact h ⟨place, groups, e⟩ (mem_placedLayersIn_iff.mpr hat)
  rw [hlayers, parseMap_eq_of_readMapSizes hroot hname hsizes]
  constructor
  · rintro ⟨m, hm⟩
    obtain ⟨doc, hdoc, -⟩ := map_eq_ok_iff.mp hm
    exact exists_readMapNodes_iff.mp ⟨doc, hdoc⟩
  · intro hreadable
    obtain ⟨doc, hdoc⟩ := exists_readMapNodes_iff.mpr hreadable
    exact ⟨doc.map, map_eq_ok_iff.mpr ⟨doc, hdoc, rfl⟩⟩

/-- **Groups are flattened.** A map whose attributes are valid is read exactly if its
tilesets can be read and no layer that is reached from its root through groups only is at
fault. Its layers are then those, in document order and each of them once, with the size
of the map and shown if nothing around them is hidden. If one of them is at fault, what is
reported is the first such layer, unless a tileset before it cannot be read. -/
theorem layers_flattened (hroot : Element.parse? text = some root) (hname : root.name = "map")
    (hsizes : readMapSizes root = .ok sizes) :
    ((∃ m, parseMap text dir = .ok m) ↔
      (∀ e ∈ root.elementsNamed "tileset", ∃ ref, readTilesetRef dir e = .ok ref) ∧
        ∀ place groups e, LayerAt root.children place groups e →
          ∀ cause, ¬ LayerFault e cause) ∧
      (∀ m, parseMap text dir = .ok m →
        m.width = sizes.width ∧ m.height = sizes.height ∧
          ∃ places : List (List Nat), places.Pairwise (· < ·) ∧
            (∀ place, place ∈ places ↔ ∃ groups e, LayerAt root.children place groups e) ∧
            List.Forall₂ (fun place l => ∃ groups e, LayerAt root.children place groups e ∧
              IsLayerOf m.width m.height groups e l) places m.layers) ∧
      ∀ place groups e cause, LayerAt root.children place groups e → LayerFault e cause →
        (∃ reported, parseMap text dir = .error reported) ∧
          (LayersReadBefore root.children place → TilesetsReadBefore dir root.children place →
            parseMap text dir = .error cause) := by
  have hread : (∃ m, parseMap text dir = .ok m) ↔ _ := exists_parseMap_iff hroot hname hsizes
  refine ⟨hread, fun m => exists_places_of_parseMap hroot hsizes, ?_⟩
  intro place groups e cause hat hfault
  constructor
  · cases hparse : parseMap text dir with
    | error reported => exact ⟨reported, rfl⟩
    | ok m => exact absurd hfault ((hread.mp ⟨m, hparse⟩).2 place groups e hat cause)
  · intro hlayers htilesets
    rw [parseMap_eq_of_readMapSizes hroot hname hsizes, map_eq_error_iff]
    exact readMapNodes_eq_error hat hfault hlayers htilesets

end Maps

def groveTrees : Element :=
  ⟨"layer", [⟨none, "name", "Trees"⟩], [.element "data" [] [.text "3"]]⟩

def groveZone (data : List Node) : Element :=
  ⟨"layer", [⟨none, "name", "Zone"⟩], data⟩

def groveInner (data : List Node) : Element :=
  ⟨"group", [], [(groveZone data).node]⟩

def groveOuter (data : List Node) : Element :=
  ⟨"group", [⟨none, "visible", " 0"⟩], [groveTrees.node, (groveInner data).node]⟩

def groveElement (data : List Node) : Element where
  name := "map"
  attributes :=
    [⟨none, "width", "2"⟩, ⟨none, "height", "1"⟩, ⟨none, "tilewidth", "8"⟩,
      ⟨none, "tileheight", "8"⟩]
  children := [(groveOuter data).node]

def groveText : String :=
  "<map width='2' height='1' tilewidth='8'
  tileheight='8'><group visible=' 0'><layer name='Trees'><data>3</data></layer
  ><group><layer name='Zone'><data>5,6,7</data></layer></group></group></map>"

def groveCutText : String :=
  "<map width='2' height='1' tilewidth='8'
  tileheight='8'><group visible=' 0'><layer name='Trees'><data>3</data></layer
  ><group><layer name='Zone'></layer></group></group></map>"

def grove : TileMap :=
  { TileMap.blank 2 1 8 8 with
    layers := [⟨"Trees", false, .other, [3, 0]⟩, ⟨"Zone", false, .zone, [5, 6]⟩] }

set_option maxRecDepth 4000 in
theorem parse?_grove :
    Element.parse? groveText = some (groveElement [.element "data" [] [.text "5,6,7"]]) ∧
      Element.parse? groveCutText = some (groveElement []) :=
  ⟨(parse?_of_toList groveText String.toList_ofList).trans (by decide +kernel),
    (parse?_of_toList groveCutText String.toList_ofList).trans (by decide +kernel)⟩

theorem parseMap_grove : parseMap groveText ⟨"d"⟩ = .ok grove := by
  rw [parseMap, parseMapDocument, parseElement_eq_ok_iff.mpr parse?_grove.1]
  decide +kernel

theorem placedLayersIn_grove (data : List Node) :
    placedLayersIn 0 (groveElement data).children =
      [⟨[0, 0], [groveOuter data], groveTrees⟩,
        ⟨[0, 1, 0], [groveOuter data, groveInner data], groveZone data⟩] :=
  rfl

theorem layersReadBefore_grove :
    LayersReadBefore (groveElement []).children [0, 1, 0] := by
  intro q groups e hat hlt
  have hq : ⟨q, groups, e⟩ ∈ placedLayersIn 0 (groveElement []).children :=
    mem_placedLayersIn_iff.mpr hat
  rw [placedLayersIn_grove] at hq
  have htrees : ∃ l, readLayer 2 1 true groveTrees = .ok l :=
    ⟨⟨"Trees", true, .other, [3, 0]⟩, by decide +kernel⟩
  rcases List.mem_pair.mp hq with hq | hq
  · cases hq
    exact exists_readLayer_iff.mp htrees
  · cases hq
    exact absurd hlt (by decide)

theorem tilesetsReadBefore_grove {dir : Path} :
    TilesetsReadBefore dir (groveElement []).children [0, 1, 0] := by
  intro i e hnode hname
  obtain ⟨name, attributes, children⟩ := e
  cases i with
  | zero =>
      cases hnode
      exact absurd hname (by decide)
  | succ i => cases hnode

/-- A zone in the inner one of two groups is read with both of them around it, and is
missed if it has no data. -/
theorem grove_flattened :
    (∃ l ∈ grove.layers, ∃ groups e,
      LayerAt (groveElement [.element "data" [] [.text "5,6,7"]]).children [0, 1, 0] groups e ∧
        IsLayerOf 2 1 groups e l) ∧
    parseMap groveCutText ⟨"d"⟩ = .error (.missingElement "data") := by
  have hsizes : ∀ data, readMapSizes (groveElement data) = .ok (TileMap.blank 2 1 8 8) := by
    intro data
    change readMapSizes (groveElement []) = _
    decide +kernel
  have hat : ∀ data, LayerAt (groveElement data).children [0, 1, 0]
      [groveOuter data, groveInner data] (groveZone data) := by
    intro data
    exact .inside rfl rfl (.inside rfl rfl (.layer rfl rfl))
  constructor
  · obtain ⟨-, -, places, -, hplaces, hlayers⟩ :=
      (layers_flattened parse?_grove.1 rfl (hsizes _)).2.1 grove parseMap_grove
    exact exists_of_mem_of_forall₂ hlayers.flip ((hplaces _).mpr ⟨_, _, hat _⟩)
  · exact ((layers_flattened parse?_grove.2 rfl (hsizes _)).2.2 _ _ _ _ (hat [])
      (.missing rfl)).2 layersReadBefore_grove tilesetsReadBefore_grove

end TileAtlas
