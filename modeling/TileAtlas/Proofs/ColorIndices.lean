/-
Color indices in a Wang set that grows.

Colors and tiles are added to a set one at a time, in any order (`Wang.Growth`). What one
addition does is said once (`Wang.Growth.Tracks.add`), and from it what a whole run has
built (`Wang.Growth.tracks_run`): the colors and tiles are those that were added, in their
order, and the answers count the colors up to 255. Additions go to the end, so an index
keeps its color and a tile its first Wang id.
-/

import Mathlib.Order.Bounds.Defs
import TileAtlas.Wang.Set

namespace TileAtlas.Wang

variable {name : String} {setType : SetType} {s : WangSet} {k : UInt8} {n i : Nat} {c : Color}
  {t : UInt32} {w : Id}

/-! ### Looking up colors -/

/-- An index is given to a color while it fits a byte. -/
theorem colorIndex?_eq_some_iff : colorIndex? n = some k ↔ k.toNat = n := by
  have hk := k.toNat_lt
  rw [colorIndex?, Option.ite_none_right_eq_some, Option.some.injEq, ← UInt8.toNat_inj]
  constructor
  · rintro ⟨hn, hindex⟩
    rw [← hindex, UInt8.toNat_ofNat_of_lt' hn]
  · rintro rfl
    exact ⟨hk, UInt8.toNat_ofNat_of_lt' hk⟩

theorem colorIndex?_eq_none_iff : colorIndex? n = none ↔ 255 < n := by
  simp only [colorIndex?, ite_eq_right_iff, reduceCtorEq, imp_false, Nat.not_lt]
  exact Nat.succ_le_iff

/-- The positions of the colors with a name, counted from one. -/
def positionsOf (colors : List Color) (name : String) : Set Nat :=
  {n | ∃ i c, n = i + 1 ∧ colors[i]? = some c ∧ c.name = name}

/-- The search by name finds the first color of that name. -/
theorem findIdx?_eq_some_iff {colors : List Color} :
    colors.findIdx? (fun c => c.name == name) = some i ↔
      IsLeast (positionsOf colors name) (i + 1) := by
  rw [List.findIdx?_eq_some_iff_getElem]
  constructor
  · rintro ⟨hi, hname, hbefore⟩
    refine ⟨⟨i, colors[i], rfl, List.getElem?_eq_getElem hi, by simpa using hname⟩, ?_⟩
    rintro _ ⟨j, d, rfl, hd, hdname⟩
    obtain ⟨_, rfl⟩ := List.getElem?_eq_some_iff.mp hd
    refine Nat.succ_le_succ (Nat.le_of_not_lt fun hji => ?_)
    exact hbefore j hji (by simpa using hdname)
  · rintro ⟨⟨j, d, hij, hd, hdname⟩, hleast⟩
    obtain rfl : i = j := by omega
    obtain ⟨hi, rfl⟩ := List.getElem?_eq_some_iff.mp hd
    refine ⟨hi, by simpa using hdname, fun j hji hname => ?_⟩
    have hle := hleast ⟨j, colors[j], rfl, List.getElem?_eq_getElem (by omega), by simpa using hname⟩
    omega

namespace WangSet

/-- Indices count colors from 1; index 0 is no color. -/
theorem color?_eq_some_iff : s.color? k = some c ↔ k ≠ 0 ∧ s.colors[k.toNat - 1]? = some c := by
  rw [color?, Option.ite_none_left_eq_some]

/-- The index of a name is the least position of a color with it, if an id can hold it. -/
theorem indexOf?_eq_some_iff :
    s.indexOf? name = some k ↔ IsLeast (positionsOf s.colors name) k.toNat := by
  simp only [indexOf?, Option.bind_eq_some_iff, findIdx?_eq_some_iff, colorIndex?_eq_some_iff]
  constructor
  · rintro ⟨i, hleast, hk⟩
    rwa [hk]
  · intro hleast
    obtain ⟨i, -, hk, -⟩ := hleast.1
    exact ⟨i, hk ▸ hleast, hk⟩

/-- A name has no index if none of the colors with an index has it. -/
theorem indexOf?_eq_none_iff :
    s.indexOf? name = none ↔ ∀ c ∈ s.colors.take 255, c.name ≠ name := by
  unfold indexOf?
  cases hfind : s.colors.findIdx? (fun c => c.name == name) with
  | none =>
      have hnone : ∀ c ∈ s.colors, c.name ≠ name := by
        simpa using List.findIdx?_eq_none_iff.mp hfind
      simp only [Option.bind_none, true_iff]
      exact fun c hc => hnone c (List.mem_of_mem_take hc)
  | some i =>
      obtain ⟨hi, hname, hbefore⟩ := List.findIdx?_eq_some_iff_getElem.mp hfind
      rw [Option.bind_some, colorIndex?_eq_none_iff]
      constructor
      · intro hlarge c hc
        obtain ⟨j, hj, rfl⟩ := List.mem_take_iff_getElem.mp hc
        simpa using hbefore j (by omega)
      · intro hnone
        refine Nat.lt_of_not_le fun hsmall => ?_
        have hmem : s.colors[i] ∈ s.colors.take 255 :=
          List.mem_take_iff_getElem.mpr ⟨i, by omega, rfl⟩
        exact hnone _ hmem (by simpa using hname)

end WangSet

/-! ### Additions -/

inductive Addition where
  | color (c : Color)
  | tile (tileId : UInt32) (wangId : Id)

namespace Addition

def color? : Addition → Option Color
  | .color c => some c
  | .tile _ _ => none

def tile? : Addition → Option Tile
  | .color _ => none
  | .tile tileId wangId => some ⟨tileId, wangId⟩

end Addition

structure Growth where
  set : WangSet
  answers : List (Option UInt8)

namespace Growth

variable {g : Growth} {adds : List Addition}

def start (name : String) (setType : SetType) : Growth :=
  ⟨.blank name setType, []⟩

def add (g : Growth) : Addition → Growth
  | .color c => ⟨(g.set.addColor c).1, g.answers ++ [(g.set.addColor c).2]⟩
  | .tile tileId wangId => { g with set := g.set.addTile tileId wangId }

def run (g : Growth) (adds : List Addition) : Growth :=
  adds.foldl add g

/-- The set holds what was added, and each color was answered by its position. -/
structure Tracks (adds : List Addition) (g : Growth) : Prop where
  colors_eq : g.set.colors = adds.filterMap Addition.color?
  tiles_eq : g.set.tiles = adds.filterMap Addition.tile?
  answers_eq : g.answers = (List.range g.set.colors.length).map fun i => colorIndex? (i + 1)

theorem tracks_start : Tracks [] (start name setType) :=
  ⟨rfl, rfl, rfl⟩

/-- One addition goes to the end, and a color is answered by the number of colors. -/
theorem Tracks.add (h : Tracks adds g) (a : Addition) : Tracks (adds ++ [a]) (g.add a) := by
  obtain ⟨hcolors, htiles, hanswers⟩ := h
  cases a with
  | color c =>
      refine ⟨?_, ?_, ?_⟩
      · simp [Growth.add, WangSet.addColor, hcolors, Addition.color?]
      · simp [Growth.add, WangSet.addColor, htiles, Addition.tile?]
      · simp [Growth.add, WangSet.addColor, hanswers, List.range_succ]
  | tile tileId wangId =>
      refine ⟨?_, ?_, ?_⟩
      · simp [Growth.add, WangSet.addTile, hcolors, Addition.color?]
      · simp [Growth.add, WangSet.addTile, htiles, Addition.tile?]
      · simp [Growth.add, WangSet.addTile, hanswers]

/-- Whatever is added later, the set goes on tracking the additions. -/
theorem Tracks.run (h : Tracks adds g) (later : List Addition) :
    Tracks (adds ++ later) (g.run later) := by
  induction later generalizing adds g with
  | nil => simpa [Growth.run] using h
  | cons a later ih => simpa [Growth.run] using ih (h.add a)

/-- **What a run has built**: the colors and tiles that were added, in their order. -/
theorem tracks_run (name : String) (setType : SetType) (adds : List Addition) :
    Tracks adds ((start name setType).run adds) :=
  tracks_start.run adds

/-! ### What stays -/

/-- Each addition of a color was answered with the color's index, as long as there was one. -/
theorem Tracks.getElem?_answers (h : Tracks adds g) (hone : 1 ≤ n)
    (hn : n ≤ g.set.colors.length) :
    g.answers[n - 1]? = some (if n ≤ 255 then some (UInt8.ofNat n) else none) := by
  rw [h.answers_eq, List.getElem?_map, List.getElem?_range (by omega), Option.map_some,
    Nat.sub_add_cancel hone, colorIndex?]
  simp only [Nat.lt_succ_iff]

/-- A color that was added has its position as its index, whatever was added after it. -/
theorem Tracks.color?_run (h : Tracks adds g) (hone : 1 ≤ n) (hlast : n ≤ 255)
    (hc : (adds.filterMap Addition.color?)[n - 1]? = some c) (later : List Addition) :
    (g.run later).set.color? (UInt8.ofNat n) = some c := by
  have hn : (UInt8.ofNat n).toNat = n := UInt8.toNat_ofNat_of_lt' (Nat.lt_succ_of_le hlast)
  have hlt : n - 1 < (adds.filterMap Addition.color?).length := (List.getElem?_eq_some_iff.mp hc).1
  rw [WangSet.color?_eq_some_iff, (h.run later).colors_eq, List.filterMap_append, hn,
    List.getElem?_append_left hlt]
  refine ⟨?_, hc⟩
  intro hzero
  rw [hzero, UInt8.toNat_zero] at hn
  omega

/-- The first tile that was added under an id. -/
def FirstTile (adds : List Addition) (t : UInt32) (w : Id) : Prop :=
  ∃ before after, adds = before ++ .tile t w :: after ∧ ∀ w', .tile t w' ∉ before

theorem FirstTile.append (h : FirstTile adds t w) (later : List Addition) :
    FirstTile (adds ++ later) t w := by
  obtain ⟨before, after, rfl, hbefore⟩ := h
  exact ⟨before, after ++ later, by simp, hbefore⟩

/-- A tile's Wang ID is the one it was first added with. -/
theorem Tracks.wangIdOf?_eq_some_iff (h : Tracks adds g) :
    g.set.wangIdOf? t = some w ↔ FirstTile adds t w := by
  -- Searching the tiles is searching the additions and passing over the colors.
  rw [WangSet.wangIdOf?, h.tiles_eq]
  simp only [Option.map_eq_some_iff, List.find?_filterMap, Option.bind_eq_some_iff,
    List.find?_eq_some_iff_append]
  constructor
  · rintro ⟨_, ⟨a, ⟨hid, before, after, hadds, hbefore⟩, ha⟩, rfl⟩
    cases a with
    | color c => cases ha
    | tile tileId wangId =>
        cases ha
        obtain rfl : tileId = t := by simpa [Addition.tile?] using hid
        refine ⟨before, after, hadds, fun w' hw' => ?_⟩
        simpa [Addition.tile?] using hbefore _ hw'
  · rintro ⟨before, after, hadds, hbefore⟩
    refine ⟨⟨t, w⟩, ⟨.tile t w, ⟨by simp [Addition.tile?], before, after, hadds, ?_⟩, rfl⟩, rfl⟩
    intro a ha
    cases a with
    | color c => rfl
    | tile tileId wangId =>
        have hother : tileId ≠ t := by
          rintro rfl
          exact hbefore _ ha
        simpa [Addition.tile?] using hother

/-- **Indices and first ids are stable over any run of additions.** The `k`-th color is
answered by `k` up to 255 and by nothing above, and `k` is its index in every later state;
zero is the index of no color. The index of a name is the least position of a color with
it, if that is at most 255, and missing if none of the first 255 colors has the name. A
tile has the id of its first addition, and keeps it. -/
theorem color_indices_stable (name : String) (setType : SetType) (adds : List Addition) :
    let g := (start name setType).run adds
    let colors := adds.filterMap Addition.color?
    (g.answers.length = colors.length ∧
      ∀ k, 1 ≤ k → k ≤ colors.length →
        g.answers[k - 1]? = some (if k ≤ 255 then some (UInt8.ofNat k) else none)) ∧
    (∀ k c, 1 ≤ k → k ≤ 255 → colors[k - 1]? = some c →
      ∀ later, (g.run later).set.color? (UInt8.ofNat k) = some c) ∧
    g.set.color? 0 = none ∧
    (∀ name k, g.set.indexOf? name = some k ↔ IsLeast (positionsOf colors name) k.toNat) ∧
    (∀ name, g.set.indexOf? name = none ↔ ∀ c ∈ colors.take 255, c.name ≠ name) ∧
    ∀ t w, (g.set.wangIdOf? t = some w ↔ FirstTile adds t w) ∧
      (g.set.wangIdOf? t = some w → ∀ later, (g.run later).set.wangIdOf? t = some w) := by
  intro g colors
  have htracks : Tracks adds g := tracks_run name setType adds
  have hcolors : g.set.colors = colors := htracks.colors_eq
  refine ⟨⟨?_, ?_⟩, ?_, rfl, ?_, ?_, ?_⟩
  · rw [htracks.answers_eq, List.length_map, List.length_range, hcolors]
  · intro k hone hk
    exact htracks.getElem?_answers hone (hcolors ▸ hk)
  · intro k c hone hlast hc later
    exact htracks.color?_run hone hlast hc later
  · intro name k
    rw [WangSet.indexOf?_eq_some_iff, hcolors]
  · intro name
    rw [WangSet.indexOf?_eq_none_iff, hcolors]
  · intro t w
    refine ⟨htracks.wangIdOf?_eq_some_iff, fun h later => ?_⟩
    rw [htracks.wangIdOf?_eq_some_iff] at h
    exact (htracks.run later).wangIdOf?_eq_some_iff.mpr (h.append later)

/-- As many colors of one name as there are indices, a tile, one color more, and the tile
again. -/
def crowded : List Addition :=
  List.replicate 255 (.color (.plain "moss" .white)) ++
    [.tile 7 (.filled .edge 255), .color (.plain "extra" .white), .tile 7 .empty]

theorem colors_crowded : crowded.filterMap Addition.color? =
    List.replicate 255 (.plain "moss" .white) ++ [.plain "extra" .white] := by
  have hmoss : Addition.color? (.color (.plain "moss" .white)) = some (.plain "moss" .white) := rfl
  rw [crowded, List.filterMap_append, List.filterMap_replicate_of_some hmoss]
  rfl

/-- The last color that has an index keeps it, the one after it has none, and the tile keeps
its first id. -/
theorem crowded_indices :
    let g := (start "crowd" .edge).run crowded
    g.answers[254]? = some (some 255) ∧ g.answers[255]? = some none ∧
      (g.run crowded).set.color? 255 = some (.plain "moss" .white) ∧
      g.set.indexOf? "moss" = some 1 ∧ g.set.indexOf? "extra" = none ∧
      (g.run crowded).set.wangIdOf? 7 = some (.filled .edge 255) := by
  intro g
  obtain ⟨⟨-, hanswers⟩, hcolor, -, hindex, hnone, htiles⟩ :=
    color_indices_stable "crowd" .edge crowded
  rw [colors_crowded] at hanswers hcolor
  simp only [colors_crowded] at hindex hnone
  have hfirst : FirstTile crowded 7 (.filled .edge 255) := by
    refine ⟨List.replicate 255 (.color (.plain "moss" .white)), _, rfl, fun w h => ?_⟩
    cases List.eq_of_mem_replicate h
  refine ⟨hanswers 255 (by decide) ?_, hanswers 256 (by decide) ?_,
    hcolor 255 _ (by decide) (by decide) ?_ crowded, (hindex "moss" 1).mpr ⟨?_, ?_⟩,
    (hnone "extra").mpr ?_, (htiles 7 _).2 ((htiles 7 _).1.mpr hfirst) crowded⟩
  · rw [List.length_append, List.length_replicate]
    exact Nat.le_add_right 255 _
  · rw [List.length_append, List.length_replicate]
    exact Nat.le_refl 256
  · rw [List.getElem?_append_left (by rw [List.length_replicate]; decide),
      List.getElem?_replicate_of_lt (by decide)]
  · exact ⟨0, .plain "moss" .white, rfl, rfl, rfl⟩
  · rintro _ ⟨i, c, rfl, -⟩
    exact Nat.le_add_left 1 i
  · intro c hc
    rw [List.take_append_of_le_length (Nat.le_of_eq List.length_replicate.symm),
      List.take_replicate] at hc
    rw [List.eq_of_mem_replicate hc]
    decide

end Growth

end TileAtlas.Wang
