/-
What the check of a map finds, finding by finding.

The findings about ids in layers come layer after layer. Those of one layer belong to its
bad ids, one finding for each, in ascending order (`Check.layerFindings_layerIssues`). An
id is bad if all first ids are above it, or if it is past the tiles of its document
(`Check.GidFinding`); where the document is missing nothing is said.

So a layer enters the report with its name and the set of its ids alone: how often, in
which order and with which flips they stand in the cells makes no difference
(`Check.layerIssues_congr`).
-/

import TileAtlas.Proofs.MapCheck
import TileAtlas.Proofs.Resolution

namespace TileAtlas

/-! ### Ids of a layer -/

namespace Layer

/-- An id stands in some cell of a layer, flips aside. Empty cells have none. -/
def HasId (layer : Layer) (g : UInt32) : Prop :=
  g ≠ 0 ∧ ∃ gid ∈ layer.gids, stripFlips gid = g

/-- The ids of a layer carry no flip bits any more. -/
theorem HasId.stripFlips_eq {layer : Layer} {g : UInt32} (hg : layer.HasId g) :
    stripFlips g = g := by
  obtain ⟨-, gid, -, rfl⟩ := hg
  exact stripFlips_stripFlips gid

/-- An id of a layer that belongs nowhere is below all first ids. -/
theorem HasId.resolve?_eq_none_iff {layer : Layer} {g : UInt32} (hg : layer.HasId g)
    (m : TileMap) : m.resolve? g = none ↔ ∀ ref ∈ m.tilesets, g < ref.firstGid := by
  have hzero : g.toNat ≠ 0 := fun h => hg.1 (UInt32.toNat_inj.mp h)
  rw [TileMap.resolve?_eq_none_iff, ← toNat_stripFlips, hg.stripFlips_eq]
  simp only [hzero, false_or, UInt32.lt_iff_toNat_lt]

/-- Layers of one name with the same ids. -/
def SameIds (layer layer' : Layer) : Prop :=
  layer'.name = layer.name ∧ ∀ g, layer'.HasId g ↔ layer.HasId g

end Layer

/-- The same map with other layers. -/
def LoadedMap.withLayers (l : LoadedMap) (layers : List Layer) : LoadedMap :=
  { l with map := { l.map with layers } }

namespace Check

variable {label location : String} {l : LoadedMap} {layer layer' : Layer} {g : UInt32}
  {issue : Issue}

/-! ### One id -/

/-- The finding about a bad id: it is below all first ids, or the document it belongs to
has fewer tiles. -/
inductive GidFinding (location : String) (l : LoadedMap) (g : UInt32) : Issue → Prop where
  | unresolved (hbelow : ∀ ref ∈ l.map.tilesets, g < ref.firstGid) :
      GidFinding location l g
        ⟨.error, .unresolvedGid, location, s!"gid {g} does not belong to any tileset"⟩
  | outOfRange {i : Nat} {tile : UInt32} {doc : TilesetDocument}
      (hresolve : l.map.resolve? g = some (i, tile)) (hdoc : l.tilesets[i]? = some doc)
      (hcount : doc.tileset.tileCount ≤ tile) :
      GidFinding location l g
        ⟨.error, .gidOutOfRange, location,
          s!"gid {g} is tile {tile} of {doc.label}, which has {doc.tileset.tileCount} tiles"⟩

/-- A tile is out of range if its id is not below the tile count. -/
theorem not_containsTile_iff {t : Tileset} {tile : UInt32} :
    ¬ t.containsTile tile = true ↔ t.tileCount ≤ tile := by
  rw [Tileset.containsTile, decide_eq_true_eq, UInt32.not_lt]

/-- What is found about an id of a layer is the one finding about it, if it is bad. -/
theorem gidIssues_eq_singleton_iff (hg : layer.HasId g) :
    gidIssues location l g = [issue] ↔ GidFinding location l g issue := by
  have hnone := hg.resolve?_eq_none_iff l.map
  unfold gidIssues
  constructor
  · intro h
    split at h
    · rename_i hresolve
      cases h
      exact .unresolved (hnone.mp hresolve)
    · rename_i i tile hresolve
      split at h
      · cases h
      · rename_i doc hdoc
        split at h
        · cases h
        · rename_i hcontains
          cases h
          exact .outOfRange hresolve hdoc (not_containsTile_iff.mp hcontains)
  · intro h
    cases h with
    | unresolved hbelow =>
        rw [hnone.mpr hbelow]
        rfl
    | outOfRange hresolve hdoc hcount =>
        simp only [hresolve, hdoc, if_neg (not_containsTile_iff.mpr hcount)]
        rfl

/-- There is at most one finding about an id. -/
theorem gidIssues_eq_nil_or_singleton (location : String) (l : LoadedMap) (g : UInt32) :
    gidIssues location l g = [] ∨ ∃ issue, gidIssues location l g = [issue] := by
  unfold gidIssues
  split
  · exact .inr ⟨_, rfl⟩
  · split
    · exact .inl rfl
    · split
      · exact .inl rfl
      · exact .inr ⟨_, rfl⟩

/-! ### One layer -/

/-- The findings about a layer: one for each of its bad ids, in ascending order. -/
def LayerFindings (label : String) (l : LoadedMap) (layer : Layer) (issues : List Issue) : Prop :=
  let location := s!"{label}: layer '{layer.name}'"
  ∃ gs : List UInt32, gs.Pairwise (· < ·) ∧
    (∀ g, g ∈ gs ↔ layer.HasId g ∧ ∃ issue, GidFinding location l g issue) ∧
    List.Forall₂ (GidFinding location l) gs issues

/-- The gids of a layer are checked in ascending order, each once. -/
theorem gidsOf_ascending (layer : Layer) : (gidsOf layer).Pairwise (· < ·) :=
  (Ascending.pairwise_ofList _).imp Std.compare_eq_lt.mp

/-- Along a list of ids of a layer, those with a finding stand beside their findings. -/
theorem forall₂_gidFinding {gs : List UInt32} (hgs : ∀ g ∈ gs, layer.HasId g) :
    List.Forall₂ (GidFinding location l) (gs.filter fun g => gidIssues location l g ≠ [])
      (gs.flatMap (gidIssues location l)) := by
  induction gs with
  | nil => exact .nil
  | cons g gs ih =>
      obtain ⟨hg, hrest⟩ := List.forall_mem_cons.mp hgs
      rw [List.flatMap_cons]
      rcases gidIssues_eq_nil_or_singleton location l g with hnil | ⟨issue, hissue⟩
      · rw [List.filter_cons_of_neg (by simp [hnil]), hnil]
        exact ih hrest
      · rw [List.filter_cons_of_pos (by simp [hissue]), hissue]
        exact .cons ((gidIssues_eq_singleton_iff hg).mp hissue) (ih hrest)

/-- **Each bad id of a layer is reported once**, in ascending order, and nothing else is. -/
theorem layerFindings_layerIssues (label : String) (l : LoadedMap) (layer : Layer) :
    LayerFindings label l layer (layerIssues label l layer) := by
  refine ⟨(gidsOf layer).filter fun g => gidIssues _ l g ≠ [],
    (gidsOf_ascending layer).filter _, ?_, forall₂_gidFinding fun g => mem_gidsOf.mp⟩
  intro g
  rw [List.mem_filter, decide_eq_true_eq]
  constructor
  · rintro ⟨hmem, hfound⟩
    have hg : layer.HasId g := mem_gidsOf.mp hmem
    rcases gidIssues_eq_nil_or_singleton _ l g with hnil | ⟨issue, hissue⟩
    · exact absurd hnil hfound
    · exact ⟨hg, issue, (gidIssues_eq_singleton_iff hg).mp hissue⟩
  · rintro ⟨hg, issue, hfinding⟩
    rw [(gidIssues_eq_singleton_iff hg).mpr hfinding]
    exact ⟨mem_gidsOf.mpr hg, List.cons_ne_nil _ _⟩

/-- Layers of one name with the same ids are checked alike. -/
theorem layerIssues_congr (h : layer.SameIds layer') :
    layerIssues label l layer' = layerIssues label l layer := by
  obtain ⟨hname, hids⟩ := h
  have hgids : gidsOf layer' = gidsOf layer := by
    apply Ascending.ofList_eq_of_mem_iff
    intro g
    have hmem : ∀ a : Layer, g ∈ (a.gids.map stripFlips).filter (· != 0) ↔ a.HasId g :=
      fun a => Ascending.mem_ofList.symm.trans mem_gidsOf
    rw [hmem, hmem, hids]
  rw [layerIssues, layerIssues, hname, hgids]

/-! ### The whole report -/

/-- Nothing is said about first ids exactly if they ascend from one. -/
theorem has_invalidFirstGid_iff :
    (map label l).has .invalidFirstGid = false ↔
      (∀ ref ∈ l.map.tilesets, 0 < ref.firstGid) ∧ l.map.Ascends := by
  have hsizes : ∀ i ∈ l.tilesets.flatMap (tileSizeIssues label l.map),
      i.kind ≠ .invalidFirstGid := by
    intro i hi
    obtain ⟨doc, -, hi⟩ := List.mem_flatMap.mp hi
    rw [kind_of_mem_tileSizeIssues hi]
    decide
  have hlayers : ∀ i ∈ l.map.layers.flatMap (layerIssues label l), i.kind ≠ .invalidFirstGid := by
    intro i hi
    obtain ⟨layer, -, hi⟩ := List.mem_flatMap.mp hi
    rcases kind_of_mem_layerIssues hi with hkind | hkind
    · rw [hkind]
      decide
    · rw [hkind]
      decide
  have hfirst : (∀ i ∈ firstGidIssues label 0 0 l.map.tilesets, i.kind ≠ .invalidFirstGid) ↔
      firstGidIssues label 0 0 l.map.tilesets = [] := by
    rw [List.eq_nil_iff_forall_not_mem]
    constructor
    · intro hnone i hi
      exact hnone i hi (kind_of_mem_firstGidIssues hi)
    · intro hnil i hi
      exact absurd hi (hnil i)
  rw [Report.has, List.any_eq_false]
  simp only [beq_iff_eq, map, List.forall_mem_append]
  rw [hfirst, firstGidIssues_eq_nil_iff]
  exact ⟨fun h => h.1.1, fun h => ⟨⟨h, hsizes⟩, hlayers⟩⟩

def isGidIssue (i : Issue) : Bool :=
  i.kind == .unresolvedGid || i.kind == .gidOutOfRange

/-- The findings about ids are those of the layers, one layer after the other. -/
theorem filter_isGidIssue_map (label : String) (l : LoadedMap) :
    (map label l).issues.filter isGidIssue = (l.map.layers.map (layerIssues label l)).flatten := by
  have hfirst : (firstGidIssues label 0 0 l.map.tilesets).filter isGidIssue = [] := by
    refine List.filter_eq_nil_iff.mpr fun i hi => ?_
    rw [isGidIssue, kind_of_mem_firstGidIssues hi]
    decide
  have hsizes : (l.tilesets.flatMap (tileSizeIssues label l.map)).filter isGidIssue = [] := by
    refine List.filter_eq_nil_iff.mpr fun i hi => ?_
    obtain ⟨doc, -, hi⟩ := List.mem_flatMap.mp hi
    rw [isGidIssue, kind_of_mem_tileSizeIssues hi]
    decide
  have hlayers : (l.map.layers.flatMap (layerIssues label l)).filter isGidIssue =
      l.map.layers.flatMap (layerIssues label l) := by
    refine List.filter_eq_self.mpr fun i hi => ?_
    obtain ⟨layer, -, hi⟩ := List.mem_flatMap.mp hi
    simpa [isGidIssue] using kind_of_mem_layerIssues hi
  rw [map, List.filter_append, List.filter_append, hfirst, hsizes, hlayers,
    List.flatMap_def]
  rfl

/-- Layers that keep their names and ids do not change the report. -/
theorem map_withLayers {layers : List Layer} (h : List.Forall₂ Layer.SameIds l.map.layers layers) :
    map label (l.withLayers layers) = map label l := by
  -- While one layer is checked, the others are not read.
  have hissues : layerIssues label (l.withLayers layers) = layerIssues label l := rfl
  have hlayers : layers.flatMap (layerIssues label l) =
      l.map.layers.flatMap (layerIssues label l) := by
    rw [List.flatMap_def, List.flatMap_def,
      Fallible.map_eq_of_forall₂ h fun _ _ => layerIssues_congr]
  unfold map
  rw [hissues]
  exact congrArg (fun issues => Report.mk (_ ++ issues)) hlayers

/-- **A map's report names exactly what is wrong with its ids.** No first id is reported
exactly if first ids ascend from one. The findings about ids in layers are those of one
layer after the other, and those of a layer are one for each of its bad ids, in ascending
order. So other cells with the same ids give the identical report. -/
theorem map_reports_bad_ids (label : String) (l : LoadedMap) :
    ((map label l).has .invalidFirstGid = false ↔
        (∀ ref ∈ l.map.tilesets, 0 < ref.firstGid) ∧ l.map.Ascends) ∧
      (∃ found, (map label l).issues.filter isGidIssue = found.flatten ∧
        List.Forall₂ (LayerFindings label l) l.map.layers found) ∧
      ∀ layers, List.Forall₂ Layer.SameIds l.map.layers layers →
        map label (l.withLayers layers) = map label l := by
  refine ⟨has_invalidFirstGid_iff, ⟨_, filter_isGidIssue_map label l, ?_⟩,
    fun layers => map_withLayers⟩
  rw [List.forall₂_map_right_iff, List.forall₂_same]
  exact fun layer _ => layerFindings_layerIssues label l layer

/-- Ids start at 3, and there are four tiles: id 2 is below and id 9 above. -/
def pasture : LoadedMap where
  map :=
    { TileMap.blank 2 2 8 8 with
      tilesets := [⟨3, .external ⟨"t.tsx"⟩⟩],
      layers := [⟨"grass", true, .other, [9, 2, 0, 2147483657]⟩] }
  tilesets := [⟨some ⟨"t.tsx"⟩, { Tileset.empty with tileCount := 4 }, []⟩]

/-- The two bad ids of the example may stand in other cells. -/
theorem pasture_report :
    List.Forall₂ Layer.SameIds pasture.map.layers [⟨"grass", true, .other, [2, 9, 9]⟩] ∧
      map "m" (pasture.withLayers [⟨"grass", true, .other, [2, 9, 9]⟩]) = map "m" pasture ∧
      (map "m" pasture).has .invalidFirstGid = false := by
  have hids : List.Forall₂ Layer.SameIds pasture.map.layers
      [⟨"grass", true, .other, [2, 9, 9]⟩] := by
    have hgids : gidsOf ⟨"grass", true, .other, [2, 9, 9]⟩ =
        gidsOf ⟨"grass", true, .other, [9, 2, 0, 2147483657]⟩ := by decide
    refine .cons ⟨rfl, fun g => mem_gidsOf.symm.trans ?_⟩ .nil
    rw [hgids]
    exact mem_gidsOf
  obtain ⟨hfirst, -, hreport⟩ := map_reports_bad_ids "m" pasture
  refine ⟨hids, hreport _ hids, hfirst.mpr ⟨?_, ?_⟩⟩
  · intro ref href
    rw [List.mem_singleton.mp href]
    decide
  · exact List.pairwise_singleton _ _

end Check

end TileAtlas
