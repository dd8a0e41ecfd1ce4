/-
How often the check of a tileset finds each kind of defect in its Wang sets.

The defects of a set are counted by what is written in it: `Check.colorDefect` and
`Check.tileDefect` say what may be wrong with one color and with one tile, and
`Check.defects` adds them up, together with what only the whole set shows. Checking goes
through tiles and sets one by one and remembers what it has met, so the findings about
repetitions are one for each member met before (`Check.repeats`), which are all members
but the distinct ones (`Check.repeats_add_card`).

Each defect is found once: `Check.count_wangSetIssues`. A count over the tiles of a set
does not see their order (`Check.defects_eq_of_tilesReordered`).
-/

import Mathlib.Algebra.Order.Field.Power
import Mathlib.Algebra.Order.Field.Rat
import Mathlib.Data.Finset.Card
import TileAtlas.Proofs.Fallible
import TileAtlas.Proofs.Findings
import TileAtlas.Proofs.Grid

namespace TileAtlas

open Report (kinds kinds_nil kinds_cons kinds_append)
open Wang (WangSet Position)

/-! ### Weights -/

/-- The number that a finite value is. -/
def Number.Binary.toRat? {f : Number.Format} : Number.Binary f → Option ℚ
  | .finite negative m e _ => some ((if negative then -1 else 1) * m * 2 ^ e)
  | _ => none

/-- A weight is valid if it is a number that is not below zero. -/
theorem Wang.Color.hasValidProbability_iff (c : Wang.Color) :
    c.hasValidProbability = true ↔ ∃ q ∈ c.probability.toRat?, 0 ≤ q := by
  unfold Wang.Color.hasValidProbability
  cases c.probability with
  | nan => simp [Number.Binary.isFinite, Number.Binary.toRat?]
  | infinite negative => simp [Number.Binary.isFinite, Number.Binary.toRat?]
  | finite negative m e h =>
      have hpower : (0 : ℚ) < 2 ^ e := zpow_pos (by norm_num) e
      simp only [Number.Binary.isFinite, Number.Binary.isNegative, Number.Binary.toRat?,
        Option.mem_some_iff, exists_eq_left', mul_nonneg_iff_of_pos_right hpower]
      cases negative with
      | false => simp
      | true => simp

namespace Check

/-! ### Defects -/

/-- Something wrong with a color: it has no name, its tile is not there, or its weight is
not a number or below zero. -/
def colorDefect (t : Tileset) (c : Wang.Color) : IssueKind → Bool
  | .unnamedColor => c.name = ""
  | .colorTileOutOfRange => ∃ tile ∈ c.tile, t.tileCount ≤ tile
  | .invalidProbability => ¬ ∃ q ∈ c.probability.toRat?, 0 ≤ q
  | _ => false

/-- Something wrong with a tile of a set: it is not there, it has a color that is not
declared, a color in a slot that the set does not use, or no color in any slot that the
set uses. -/
def tileDefect (t : Tileset) (s : WangSet) (w : Wang.Tile) : IssueKind → Bool
  | .tileOutOfRange => t.tileCount ≤ w.tileId
  | .unknownColor => ∃ c ∈ w.wangId.toList, s.colors.length < c.toNat
  | .inactivePosition => ∃ p ∈ Position.all, w.wangId.colorAt p ≠ 0 ∧ p ∉ s.setType.positions
  | .emptyWangId => ∀ p ∈ s.setType.positions, w.wangId.colorAt p = 0
  | _ => false

/-- The number of defects of a kind in a Wang set. -/
def defects (t : Tileset) (s : WangSet) : IssueKind → Nat
  | .setTileOutOfRange => if ∃ tile ∈ s.tile, t.tileCount ≤ tile then 1 else 0
  | .duplicateWangTile => s.tiles.length - (s.tiles.map (·.tileId)).toFinset.card
  | .unusedColor =>
    (List.range' 1 (min s.colors.length 255)).countP fun n =>
      ∀ w ∈ s.tiles, n ∉ w.wangId.toList.map UInt8.toNat
  | kind =>
    s.colors.countP (fun c => colorDefect t c kind) +
      s.tiles.countP (fun w => tileDefect t s w kind)

/-! ### Counting findings -/

variable {kind : IssueKind} {location label : String} {t : Tileset} {s : WangSet}

theorem length_ofKind (r : Report) (kind : IssueKind) :
    (r.ofKind kind).length = (kinds r.issues).count kind := by
  rw [Report.ofKind, kinds, List.count_eq_countP, List.countP_map, List.countP_eq_length_filter]
  rfl

/-- A check that makes one finding or none. -/
theorem count_kinds_ite {p : Prop} [Decidable p] (i : Issue) :
    (kinds (if p then [i] else [])).count kind = if i.kind = kind ∧ p then 1 else 0 := by
  by_cases hp : p
  · simp [hp, List.count_singleton]
  · simp [hp]

theorem count_kinds_ite_not {p : Prop} [Decidable p] (i : Issue) :
    (kinds (if p then [] else [i])).count kind = if i.kind = kind ∧ ¬ p then 1 else 0 := by
  rw [← count_kinds_ite i, ite_not]

/-- A set tile out of range is found once; the check adds nothing of another kind. -/
theorem count_setTileIssues :
    (kinds (setTileIssues location t s)).count kind =
      if kind = .setTileOutOfRange ∧ ∃ tile ∈ s.tile, t.tileCount ≤ tile then 1 else 0 := by
  unfold setTileIssues
  cases s.tile with
  | none => simp
  | some tile => simp [count_kinds_ite_not, Tileset.containsTile, eq_comm]

/-- A color's defect is found once for each kind. -/
theorem count_colorIssues (position : Nat) (c : Wang.Color) :
    (kinds (colorIssues location t position c)).count kind =
      if colorDefect t c kind then 1 else 0 := by
  unfold colorIssues
  simp only [kinds_append, List.count_append, count_kinds_ite, count_kinds_ite_not,
    c.hasValidProbability_iff]
  cases htile : c.tile with
  | none => cases kind <;> simp [colorDefect, htile]
  | some tile =>
      simp only [count_kinds_ite_not, Tileset.containsTile, decide_eq_true_eq, UInt32.not_lt]
      cases kind <;> simp [colorDefect, htile]

/-! ### Tiles -/

/-- No color is unknown if no entry of the ID is past the colors of the set. -/
theorem isEmpty_unknownColors_iff (w : Wang.Id) (n : Nat) :
    (w.colors.filter fun c => n < c.toNat).isEmpty = true ↔ ¬ ∃ c ∈ w.toList, n < c.toNat := by
  rw [List.isEmpty_iff, List.filter_eq_nil_iff, not_exists]
  simp only [decide_eq_true_eq, not_and, Wang.Id.mem_colors]
  constructor
  · intro hnone c hc hlt
    refine hnone c ⟨?_, hc⟩ hlt
    rintro rfl
    exact absurd hlt (Nat.not_lt_zero n)
  · intro hnone c hc
    exact hnone c hc.2

/-- No position is stray if those the set's type does not use bear no color. -/
theorem isEmpty_strayPositions_iff (w : Wang.Id) (setType : Wang.SetType) :
    (w.strayPositions setType).isEmpty = true ↔
      ¬ ∃ p ∈ Position.all, w.colorAt p ≠ 0 ∧ p ∉ setType.positions := by
  rw [List.isEmpty_iff, Wang.Id.strayPositions, List.filter_eq_nil_iff, not_exists]
  simp only [Bool.and_eq_true, bne_iff_ne, Bool.not_eq_true', Wang.SetType.mem_positions_iff,
    Bool.not_eq_true, not_and]

/-- A tile's defect is found once for each kind. -/
theorem count_wangTileIssues (w : Wang.Tile) :
    (kinds (wangTileIssues location t s w)).count kind =
      if tileDefect t s w kind then 1 else 0 := by
  unfold wangTileIssues
  simp only [kinds_append, List.count_append, count_kinds_ite, count_kinds_ite_not,
    isEmpty_unknownColors_iff, isEmpty_strayPositions_iff, Tileset.containsTile,
    decide_eq_true_eq, UInt32.not_lt, not_not, List.all_eq_true, beq_iff_eq]
  cases kind <;> simp [tileDefect]

/-- The number of members of a list that were met before, given what was met at first. -/
def repeats {α : Type} [DecidableEq α] : List α → List α → Nat
  | _, [] => 0
  | seen, x :: xs => (if x ∈ seen then 1 else 0) + repeats (x :: seen) xs

/-- All members are met before but the new ones, each of them once. -/
theorem repeats_add_card {α : Type} [DecidableEq α] (seen xs : List α) :
    repeats seen xs + (xs.toFinset \ seen.toFinset).card = xs.length := by
  induction xs generalizing seen with
  | nil => simp [repeats]
  | cons x xs ih =>
      have hrest := ih (x :: seen)
      rw [List.toFinset_cons] at hrest
      rw [repeats, List.toFinset_cons, List.length_cons]
      by_cases hx : x ∈ seen
      · have hmem : x ∈ seen.toFinset := List.mem_toFinset.mpr hx
        rw [Finset.insert_eq_of_mem hmem] at hrest
        rw [if_pos hx, Finset.insert_sdiff_of_mem _ hmem]
        omega
      · have hnew : x ∉ seen.toFinset := fun h => hx (List.mem_toFinset.mp h)
        have hsplit : insert x xs.toFinset \ seen.toFinset =
            insert x (xs.toFinset \ insert x seen.toFinset) := by
          ext y
          by_cases hy : y = x
          · simp [hy, hx]
          · simp [hy]
        rw [if_neg hx, hsplit, Finset.card_insert_of_notMem (by simp)]
        omega

/-- From the start of a list the repeats are its length less its number of distinct elements. -/
theorem repeats_nil {α : Type} [DecidableEq α] (xs : List α) :
    repeats [] xs = xs.length - xs.toFinset.card := by
  have hsum := repeats_add_card [] xs
  rw [List.toFinset_nil, Finset.sdiff_empty] at hsum
  omega

/-- What is found about the tiles of a set: one finding for each that was met before, and
one for each defect of a tile. -/
theorem count_wangTilesIssues (seen : List UInt32) (tiles : List Wang.Tile) :
    (kinds (wangTilesIssues location t s seen tiles)).count kind =
      (if kind = .duplicateWangTile then repeats seen (tiles.map (·.tileId)) else 0) +
        tiles.countP (fun w => tileDefect t s w kind) := by
  induction tiles generalizing seen with
  | nil => simp [wangTilesIssues, repeats]
  | cons w tiles ih =>
      simp only [wangTilesIssues, kinds_append, List.count_append, count_kinds_ite,
        count_wangTileIssues, ih, List.countP_cons, List.map_cons, repeats, List.contains_iff_mem]
      by_cases hkind : kind = .duplicateWangTile
      · simp [hkind]
        omega
      · simp [hkind, Ne.symm hkind]
        omega

/-! ### Sets -/

/-- Over the colors of a set, one finding for every color with the defect. -/
theorem count_colorsIssues (colors : List (Wang.Color × Nat)) :
    (kinds (colors.flatMap fun (c, i) => colorIssues location t (i + 1) c)).count kind =
      (colors.map (·.1)).countP (fun c => colorDefect t c kind) := by
  induction colors with
  | nil => rfl
  | cons c colors ih =>
      rw [List.flatMap_cons, kinds_append, List.count_append, ih, List.map_cons, List.countP_cons,
        count_colorIssues, Nat.add_comm]

/-- The colors that no tile carries, as numbers. -/
theorem length_unusedColors (s : WangSet) :
    s.unusedColors.length = (List.range' 1 (min s.colors.length 255)).countP fun n =>
      ∀ w ∈ s.tiles, n ∉ w.wangId.toList.map UInt8.toNat := by
  unfold WangSet.unusedColors
  simp only
  rw [← List.countP_eq_length_filter, List.countP_map, List.range'_eq_map_range, List.countP_map]
  apply List.countP_congr
  intro i hi
  have hlt : i < 255 := Nat.lt_of_lt_of_le (List.mem_range.mp hi) (Nat.min_le_right _ _)
  have hindex : ∀ c : UInt8, c = UInt8.ofNat (i + 1) ↔ c.toNat = 1 + i := by
    intro c
    rw [← UInt8.toNat_inj, UInt8.toNat_ofNat_of_lt' (by simp [UInt8.size]; omega), Nat.add_comm]
  have hzero : UInt8.ofNat (i + 1) ≠ 0 := by
    intro h
    have := (hindex 0).mp h.symm
    rw [UInt8.toNat_zero] at this
    omega
  simp only [Function.comp_apply, Bool.not_eq_true', ← Bool.not_eq_true, List.contains_iff_mem,
    WangSet.mem_usedColors, hzero, ne_eq, not_false_eq_true, true_and, decide_eq_true_eq,
    List.mem_map, not_exists, not_and]
  constructor
  · intro hunused w hw c hc hn
    rw [← hindex] at hn
    exact hunused w hw (hn ▸ hc)
  · intro hunused w hw hc
    exact hunused w hw _ hc ((hindex _).mp rfl)

/-- One finding for every color of the set that no tile bears. -/
theorem count_unusedColorIssues :
    (kinds (unusedColorIssues location s)).count kind =
      if kind = .unusedColor then s.unusedColors.length else 0 := by
  have hkinds : kinds (unusedColorIssues location s) =
      List.replicate s.unusedColors.length .unusedColor := by
    rw [kinds, unusedColorIssues, List.map_map, ← List.map_const]
    rfl
  rw [hkinds, List.count_replicate]
  by_cases hkind : kind = .unusedColor
  · simp [hkind]
  · simp [hkind, Ne.symm hkind]

/-- **Each defect of a Wang set is found once**, and nothing else is. -/
theorem count_wangSetIssues :
    (kinds (wangSetIssues label t s)).count kind = defects t s kind := by
  unfold wangSetIssues
  simp only [kinds_append, List.count_append, count_setTileIssues, count_colorsIssues,
    count_wangTilesIssues, count_unusedColorIssues, List.zipIdx_map_fst, repeats_nil,
    length_unusedColors, List.length_map]
  cases kind <;> simp [defects, colorDefect, tileDefect]

/-- What is found about Wang sets: one finding for each whose name was met before, and one
for each defect of a set. -/
theorem count_wangSetsIssues (seen : List String) (sets : List WangSet) :
    (kinds (wangSetsIssues label t seen sets)).count kind =
      (if kind = .duplicateWangSet then repeats seen (sets.map (·.name)) else 0) +
        (sets.map fun s => defects t s kind).sum := by
  induction sets generalizing seen with
  | nil => simp [wangSetsIssues, repeats]
  | cons s sets ih =>
      simp only [wangSetsIssues, kinds_append, List.count_append, count_kinds_ite,
        count_wangSetIssues, ih, List.map_cons, List.sum_cons, repeats, List.contains_iff_mem]
      by_cases hkind : kind = .duplicateWangSet
      · simp [hkind]
        omega
      · simp [hkind, Ne.symm hkind]

/-! ### The whole report -/

def wangKinds : List IssueKind :=
  [.tileOutOfRange, .duplicateWangTile, .unknownColor, .inactivePosition, .emptyWangId,
    .setTileOutOfRange, .colorTileOutOfRange, .invalidProbability, .unnamedColor, .unusedColor]

/-- Findings about the grid are of other kinds than those about Wang sets. -/
theorem count_gridIssues_of_notMem (hkind : kind ∉ gridKinds) :
    (kinds (gridIssues label t)).count kind = 0 := by
  refine List.count_eq_zero.mpr fun h => hkind ?_
  obtain ⟨i, hi, rfl⟩ := List.mem_map.mp h
  exact kind_mem_of_mem_gridIssues hi

/-- What is found in a tileset whose image is not looked at. -/
theorem length_ofKind_tileset {options : Options} (hoff : options.checkImages = false) (d : Disk)
    (doc : TilesetDocument) (kind : IssueKind) :
    ((tileset d doc options).ofKind kind).length =
      (kinds (gridIssues doc.label doc.tileset)).count kind +
        ((if kind = .duplicateWangSet then repeats [] (doc.wangSets.map (·.name)) else 0) +
          (doc.wangSets.map fun s => defects doc.tileset s kind).sum) := by
  rw [length_ofKind, tileset, tilesetWith]
  simp only [hoff, Bool.false_eq_true, if_false, List.append_nil, kinds_append, List.count_append,
    count_wangSetsIssues]

/-- The same Wang set with its tiles in some order. -/
def TilesReordered (s s' : WangSet) : Prop :=
  ∃ tiles, tiles.Perm s.tiles ∧ s' = { s with tiles }

theorem TilesReordered.name_eq {s' : WangSet} (h : TilesReordered s s') : s'.name = s.name := by
  obtain ⟨tiles, -, rfl⟩ := h
  rfl

/-- The order of the tiles does not matter to what is wrong with a set. -/
theorem defects_eq_of_tilesReordered {s' : WangSet} (h : TilesReordered s s') (t : Tileset)
    (kind : IssueKind) : defects t s' kind = defects t s kind := by
  obtain ⟨tiles, hperm, rfl⟩ := h
  have hdefect : ∀ w, tileDefect t { s with tiles } w kind = tileDefect t s w kind := fun _ => rfl
  have hids : (tiles.map (·.tileId)).toFinset = (s.tiles.map (·.tileId)).toFinset :=
    List.toFinset_eq_of_perm _ _ (hperm.map _)
  unfold defects
  split
  · rfl
  · rw [hperm.length_eq, hids]
  · simp only [hperm.mem_iff]
  · simp only [hdefect, hperm.countP_eq]

/-- **Every defect of the Wang sets is reported exactly once.** With images left aside, the
report has as many findings of a kind as there are defects of that kind in all Wang sets,
and one finding for each set beyond the distinct names. So the counts are the same for
any order of the tiles inside the sets. -/
theorem wang_defects_found_once {options : Options} (hoff : options.checkImages = false)
    (d : Disk) (doc : TilesetDocument) :
    (∀ kind ∈ wangKinds, ((tileset d doc options).ofKind kind).length =
        (doc.wangSets.map fun s => defects doc.tileset s kind).sum) ∧
      ((tileset d doc options).ofKind .duplicateWangSet).length =
        doc.wangSets.length - (doc.wangSets.map (·.name)).toFinset.card ∧
      ∀ doc' : TilesetDocument, doc'.tileset = doc.tileset →
        List.Forall₂ TilesReordered doc.wangSets doc'.wangSets →
          ∀ kind, ((tileset d doc' options).ofKind kind).length =
            ((tileset d doc options).ofKind kind).length := by
  have hcount := length_ofKind_tileset hoff d
  refine ⟨?_, ?_, ?_⟩
  · intro kind hkind
    have hother : kind ∉ gridKinds ∧ kind ≠ .duplicateWangSet := by
      revert kind
      decide
    rw [hcount, count_gridIssues_of_notMem hother.1, if_neg hother.2, Nat.zero_add, Nat.zero_add]
  · have hnone : ∀ s, defects doc.tileset s .duplicateWangSet = 0 := by
      intro s
      simp [defects, colorDefect, tileDefect]
    rw [hcount, count_gridIssues_of_notMem (by decide), if_pos rfl, repeats_nil, List.length_map]
    simp [hnone]
  · intro doc' htileset hsets kind
    have hnames : doc'.wangSets.map (·.name) = doc.wangSets.map (·.name) :=
      Fallible.map_eq_of_forall₂ hsets fun s s' h => h.name_eq
    have hsum : doc'.wangSets.map (fun s => defects doc.tileset s kind) =
        doc.wangSets.map fun s => defects doc.tileset s kind :=
      Fallible.map_eq_of_forall₂ hsets fun s s' h => defects_eq_of_tilesReordered h _ _
    rw [hcount, hcount, htileset, hnames, hsum, kinds_gridIssues doc'.label doc.label]

/-- Four tiles, and an edge set without colors that lists one of them twice, the second
time with a color in a corner. -/
def hedge : TilesetDocument where
  path := none
  tileset := { Tileset.empty with tileCount := 4 }
  wangSets :=
    [⟨"hedge", .edge, some 4, [],
      [⟨3, .ofColors 1 0 0 0 0 0 0 0⟩, ⟨3, .ofColors 0 255 0 0 0 0 0 0⟩]⟩]

def hedgeReversed : TilesetDocument :=
  { hedge with
    wangSets :=
      [⟨"hedge", .edge, some 4, [],
        [⟨3, .ofColors 0 255 0 0 0 0 0 0⟩, ⟨3, .ofColors 1 0 0 0 0 0 0 0⟩]⟩] }

/-- One repeated tile and two undeclared colors are found, in either order of the tiles. -/
theorem hedge_found_once :
    let disk : Disk := ⟨fun _ => .error .notFound⟩
    ((tileset disk hedge ⟨false, []⟩).ofKind .duplicateWangTile).length = 1 ∧
      ((tileset disk hedge ⟨false, []⟩).ofKind .unknownColor).length = 2 ∧
      ((tileset disk hedgeReversed ⟨false, []⟩).ofKind .unknownColor).length = 2 := by
  intro disk
  have hoff : (⟨false, []⟩ : Options).checkImages = false := rfl
  obtain ⟨hkinds, -, horder⟩ := wang_defects_found_once hoff disk hedge
  have hunknown : ((tileset disk hedge ⟨false, []⟩).ofKind .unknownColor).length = 2 :=
    (hkinds .unknownColor (by decide)).trans (by decide)
  have hreordered : List.Forall₂ TilesReordered hedge.wangSets hedgeReversed.wangSets :=
    .cons ⟨_, .swap _ _ _, rfl⟩ .nil
  exact ⟨(hkinds .duplicateWangTile (by decide)).trans (by decide), hunknown,
    (horder hedgeReversed rfl hreordered .unknownColor).trans hunknown⟩

end Check

end TileAtlas
