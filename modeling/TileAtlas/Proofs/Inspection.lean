/-
The color lines of an inspection.

A color line starts with a number and ends with a count of uniform tiles; `lineNumber?` and
`uniformCount?` read the two back from its text. The number of a line is its position up to
255 and stays there, and the tiles that are counted are those of the color with that number
(`lineNumber?_colorLine`, `uniformCount?_colorLine`). So for up to 255 colors the counts add
up to the tiles that are uniform in a declared color, and every further line repeats the
count of color 255 (`Wang.WangSet.sum_shownCount`).
-/

import Mathlib.Algebra.Ring.Nat
import TileAtlas.CommandLine.Inspect
import TileAtlas.Proofs.ColorQueries
import TileAtlas.Proofs.Numerals

namespace TileAtlas

open Text Wang

/-! ### Counting uniform tiles -/

namespace Wang.WangSet

variable {s : WangSet} {n : Nat}

/-- The number of tiles that are uniform in one of the first `n` colors. -/
def fillCount (s : WangSet) (n : Nat) : Nat :=
  s.tiles.countP fun w => (w.wangId.uniform? s.setType).any fun c => c.toNat ≤ n

/-- The count on the line at a position. -/
def shownCount (s : WangSet) (position : Nat) : Nat :=
  (s.uniformTiles (UInt8.ofNat (shownIndex position))).length

theorem length_uniformTiles (c : UInt8) :
    (s.uniformTiles c).length = s.tiles.countP fun w => w.wangId.uniform? s.setType == some c := by
  rw [uniformTiles, List.length_map, List.countP_eq_length_filter]

/-- No tile is uniform in color zero. -/
theorem fillCount_zero : s.fillCount 0 = 0 := by
  refine List.countP_eq_zero.mpr fun w _ hany => ?_
  obtain ⟨c, hc, hle⟩ := (Option.any_eq_true ..).mp hany
  have hzero : c = 0 := UInt8.toNat_inj.mp (Nat.le_zero.mp (of_decide_eq_true hle))
  exact (Id.uniform?_eq_some_iff.mp hc).1 hzero

/-- One color more adds the tiles that are uniform in it. -/
theorem fillCount_succ_of_lt (hn : n < 255) :
    s.fillCount (n + 1) = s.fillCount n + (s.uniformTiles (UInt8.ofNat (n + 1))).length := by
  have hcolor : ∀ c : UInt8, c = UInt8.ofNat (n + 1) ↔ c.toNat = n + 1 := by
    intro c
    rw [← UInt8.toNat_inj, toNat_ofNat_succ hn]
  rw [length_uniformTiles, fillCount, fillCount]
  induction s.tiles with
  | nil => rfl
  | cons w tiles ih =>
      simp only [List.countP_cons, ih]
      cases w.wangId.uniform? s.setType with
      | none => simp
      | some c =>
          simp only [Option.any_some, decide_eq_true_eq, beq_iff_eq, Option.some.injEq, hcolor]
          -- A tile of the new color is counted from here on, any other one as before.
          by_cases hc : c.toNat = n + 1
          · rw [if_pos (Nat.le_of_eq hc), if_neg (by omega), if_pos hc]
            omega
          · have hle : c.toNat ≤ n + 1 ↔ c.toNat ≤ n := by omega
            simp only [hle, if_neg hc]
            omega

/-- A color without an index adds nothing. -/
theorem fillCount_succ_of_ge (hn : 255 ≤ n) : s.fillCount (n + 1) = s.fillCount n := by
  refine List.countP_congr fun w _ => ?_
  cases w.wangId.uniform? s.setType with
  | none => rfl
  | some c =>
      have hc := c.toNat_lt
      simp only [Option.any_some, decide_eq_true_eq]
      omega

/-- Up to the 255th color the count shown is the color's own. -/
theorem shownCount_of_lt (hn : n < 255) :
    s.shownCount (n + 1) = (s.uniformTiles (UInt8.ofNat (n + 1))).length := by
  rw [shownCount, shownIndex, Nat.min_eq_left hn]

theorem shownCount_of_ge (hn : 255 ≤ n) : s.shownCount (n + 1) = (s.uniformTiles 255).length := by
  rw [shownCount, shownIndex, Nat.min_eq_right (Nat.le_succ_of_le hn)]
  rfl

/-- What the lines show adds up to the tiles that are uniform in a declared color, and once
more the tiles of color 255 for every color that has no index. -/
theorem sum_shownCount (s : WangSet) (n : Nat) :
    ((List.range n).map fun i => s.shownCount (i + 1)).sum =
      s.fillCount n + (n - 255) * (s.uniformTiles 255).length := by
  induction n with
  | zero => simp [fillCount_zero]
  | succ n ih =>
      rw [List.range_succ, List.map_append, List.sum_append, ih, List.map_singleton,
        List.sum_singleton]
      rcases Nat.lt_or_ge n 255 with hn | hn
      · rw [fillCount_succ_of_lt hn, shownCount_of_lt hn, Nat.sub_eq_zero_of_le hn,
          Nat.sub_eq_zero_of_le (Nat.le_of_lt hn)]
        omega
      · rw [fillCount_succ_of_ge hn, shownCount_of_ge hn, Nat.succ_sub hn, Nat.succ_mul,
          Nat.add_assoc]

end Wang.WangSet

namespace CommandLine

/-! ### What a color line shows -/

def lineNumber? (line : String) : Option Nat :=
  digits? ((line.toList.dropWhile (· == ' ')).takeWhile Char.isDigit)

def uniformCount? (line : String) : Option Nat :=
  digits? ((line.toList.reverse.dropWhile (!·.isDigit)).takeWhile Char.isDigit).reverse

theorem takeWhile_isDigit_append {digits rest : List Char} {c : Char}
    (hdigits : ∀ d ∈ digits, d.isDigit = true) (hc : c.isDigit = false) :
    (digits ++ c :: rest).takeWhile Char.isDigit = digits := by
  rw [List.takeWhile_append_of_pos hdigits, List.takeWhile_cons_of_neg (by simp [hc]),
    List.append_nil]

/-- The number of a line is read back from the line as printed. -/
theorem lineNumber?_append (n : Nat) (rest : String) :
    lineNumber? ("      " ++ toString n ++ ". " ++ rest) = some n := by
  obtain ⟨d, ds, hdigits, hd⟩ := exists_toDigits_eq_cons n
  have hline : ("      " ++ toString n ++ ". " ++ rest).toList =
      "      ".toList ++ (Nat.toDigits 10 n ++ '.' :: ' ' :: rest.toList) := by
    simp
  have hindent : ∀ c ∈ "      ".toList, (c == ' ') = true := List.all_eq_true.mp rfl
  have hspace : (d == ' ') = false := by
    rw [beq_eq_false_iff_ne]
    rintro rfl
    cases hd
  rw [lineNumber?, hline, List.dropWhile_append_of_pos hindent, hdigits, List.cons_append,
    List.dropWhile_cons_of_neg (by simp [hspace]), ← List.cons_append, ← hdigits,
    takeWhile_isDigit_append (fun _ h => isDigit_of_mem_toDigits h) (by decide), digits?_toDigits]

/-- The count at the end of a line is read back from the line as printed. -/
theorem uniformCount?_append (n : Nat) (start : String) :
    uniformCount? (start ++ " (" ++ toString n ++ " uniform)") = some n := by
  have hdigit : ∀ d ∈ (Nat.toDigits 10 n).reverse, d.isDigit = true := by
    intro d hd
    exact isDigit_of_mem_toDigits (List.mem_reverse.mp hd)
  obtain ⟨d, ds, hdigits⟩ : ∃ d ds, (Nat.toDigits 10 n).reverse = d :: ds :=
    List.exists_cons_of_ne_nil (mt List.reverse_eq_nil_iff.mp Nat.toDigits_ne_nil)
  -- From its end, the line is a word without a digit, then the digits up to a bracket.
  have hline : (start ++ " (" ++ toString n ++ " uniform)").toList.reverse =
      " uniform)".toList.reverse ++
        ((Nat.toDigits 10 n).reverse ++ '(' :: ' ' :: start.toList.reverse) := by
    simp
  have hword : ∀ c ∈ " uniform)".toList.reverse, (!c.isDigit) = true := List.all_eq_true.mp rfl
  have hd : d.isDigit = true := hdigit d (hdigits ▸ List.mem_cons_self)
  rw [uniformCount?, hline, List.dropWhile_append_of_pos hword, hdigits, List.cons_append,
    List.dropWhile_cons_of_neg (by simp [hd]), ← List.cons_append, ← hdigits,
    takeWhile_isDigit_append hdigit (by decide), List.reverse_reverse, digits?_toDigits]

theorem exists_colorLine_eq (set : WangSet) (position : Nat) (c : Color) :
    ∃ middle, colorLine set position c =
      "      " ++ toString (shownIndex position) ++ ". " ++ middle ++
        " (" ++ toString (set.shownCount position) ++ " uniform)" := by
  refine ⟨c.label (shownIndex position) ++ " " ++ c.color.text ++ " tile " ++
    c.tile.elim "none" fun t => toString t.toNat, ?_⟩
  unfold colorLine
  simp only [String.append_assoc]
  cases c.tile <;> rfl

/-- A color's line starts with the index shown for it. -/
theorem lineNumber?_colorLine (set : WangSet) (position : Nat) (c : Color) :
    lineNumber? (colorLine set position c) = some (shownIndex position) := by
  obtain ⟨middle, hline⟩ := exists_colorLine_eq set position c
  rw [hline]
  simpa only [String.append_assoc] using lineNumber?_append (shownIndex position)
    (middle ++ " (" ++ toString (set.shownCount position) ++ " uniform)")

/-- A color's line ends with the count shown for it. -/
theorem uniformCount?_colorLine (set : WangSet) (position : Nat) (c : Color) :
    uniformCount? (colorLine set position c) = some (set.shownCount position) := by
  obtain ⟨middle, hline⟩ := exists_colorLine_eq set position c
  rw [hline, uniformCount?_append]

/-! ### The color lines of a set -/

def colorLines (set : WangSet) : List String :=
  set.colors.zipIdx.map fun (c, i) => colorLine set (i + 1) c

theorem length_colorLines (set : WangSet) : (colorLines set).length = set.colors.length := by
  rw [colorLines, List.length_map, List.length_zipIdx]

/-- What is read from the lines, if it depends on the position alone. -/
theorem map_colorLines {α : Type} {set : WangSet} {read : String → α} {shown : Nat → α}
    (h : ∀ position c, read (colorLine set position c) = shown position) :
    (colorLines set).map read = (List.range set.colors.length).map fun i => shown (i + 1) := by
  rw [List.range_eq_range', ← List.zipIdx_map_snd 0 set.colors, colorLines, List.map_map,
    List.map_map]
  exact List.map_congr_left fun e _ => h (e.2 + 1) e.1

theorem wangSetLines_eq (set : WangSet) :
    ∃ title, wangSetLines set = title :: colorLines set :=
  ⟨_, rfl⟩

/-- The lines of the Wang sets end the description of a document. -/
theorem inspectionLines_eq (doc : TilesetDocument) :
    ∃ head, inspectionLines doc = head ++ doc.wangSets.flatMap wangSetLines :=
  ⟨_, rfl⟩

/-- The numbers of the lines are their positions exactly if every color has an index. -/
theorem numbered_iff (n : Nat) :
    ((List.range n).map fun i => some (shownIndex (i + 1))) =
      ((List.range n).map fun i => some (i + 1)) ↔ n ≤ 255 := by
  rw [List.map_inj_left]
  simp only [List.mem_range, Option.some.injEq, shownIndex]
  constructor
  · intro h
    refine Nat.le_of_not_lt fun hn => ?_
    have := h 255 hn
    omega
  · intro hn i hi
    omega

/-- **What the color lines of a set show.** In the description of a document the lines of
its Wang sets follow one another, and after the title of a set there is one line for each
color. The line at position `k` carries the number `k` up to 255, and 255 from there on;
the counts of uniform tiles add up to the tiles that are uniform in a declared color, and
once more the tiles of color 255 for each color above 255. So every line carries its own
number exactly if there are at most 255 colors, and each tile is counted once exactly if
there are at most 255 colors or no tile is uniform in color 255. -/
theorem inspection_counts (doc : TilesetDocument) :
    ∃ head, inspectionLines doc = head ++ doc.wangSets.flatMap wangSetLines ∧
      ∀ set ∈ doc.wangSets, ∃ (title : String) (lines : List String) (counts : List Nat),
        wangSetLines set = title :: lines ∧ lines.length = set.colors.length ∧
        lines.map lineNumber? = ((List.range lines.length).map fun i => some (min (i + 1) 255)) ∧
        lines.map uniformCount? = counts.map some ∧
        counts.sum = set.fillCount set.colors.length +
          (set.colors.length - 255) * (set.uniformTiles 255).length ∧
        (lines.map lineNumber? = ((List.range lines.length).map fun i => some (i + 1)) ↔
          set.colors.length ≤ 255) ∧
        (counts.sum = set.fillCount set.colors.length ↔
          set.colors.length ≤ 255 ∨ set.uniformTiles 255 = []) := by
  obtain ⟨head, hhead⟩ := inspectionLines_eq doc
  refine ⟨head, hhead, fun set _ => ?_⟩
  obtain ⟨title, htitle⟩ := wangSetLines_eq set
  refine ⟨title, colorLines set,
    (List.range set.colors.length).map fun i => set.shownCount (i + 1), htitle,
    length_colorLines set, ?_, ?_, set.sum_shownCount _, ?_, ?_⟩
  · rw [length_colorLines, map_colorLines (lineNumber?_colorLine set)]
    rfl
  · rw [map_colorLines (uniformCount?_colorLine set), List.map_map]
    rfl
  · rw [length_colorLines, map_colorLines (lineNumber?_colorLine set), numbered_iff]
  · rw [set.sum_shownCount, Nat.add_eq_left, Nat.mul_eq_zero, Nat.sub_eq_zero_iff_le,
      List.length_eq_zero_iff]

/-- Three lines, with the two uniform tiles on the first. -/
theorem glade_counts :
    ∃ (title : String) (lines : List String) (counts : List Nat),
      wangSetLines WangSet.glade = title :: lines ∧
        lines.map lineNumber? = [some 1, some 2, some 3] ∧
        lines.map uniformCount? = counts.map some ∧ counts.sum = 2 := by
  obtain ⟨-, -, hsets⟩ := inspection_counts ⟨none, Tileset.empty, [WangSet.glade]⟩
  obtain ⟨title, lines, counts, hlines, hlength, hnumbers, hcounts, -, -, hsum⟩ :=
    hsets WangSet.glade List.mem_cons_self
  rw [hlength] at hnumbers
  exact ⟨title, lines, counts, hlines, hnumbers, hcounts, hsum.mpr (.inl (by decide))⟩

def overfull : WangSet where
  name := "overfull"
  setType := .corner
  tile := none
  colors := List.replicate 256 (.plain "moss" .white)
  tiles := [⟨0, .filled .corner 255⟩]

/-- The last of its 256 lines carries the number 255 again, and the tile is counted on two
lines. -/
theorem overfull_counted_twice :
    ∃ (head : List String) (title : String) (lines : List String) (counts : List Nat),
      inspectionLines ⟨none, Tileset.empty, [overfull]⟩ = head ++ title :: lines ∧
        lines.length = 256 ∧ (lines.map lineNumber?)[255]? = some (some 255) ∧
        lines.map uniformCount? = counts.map some ∧ counts.sum = 2 ∧
        overfull.fillCount overfull.colors.length = 1 := by
  have hcolors : overfull.colors.length = 256 := List.length_replicate
  have hfills : overfull.fillCount 256 = 1 := by decide
  have huniform : (overfull.uniformTiles 255).length = 1 := by decide
  obtain ⟨head, hhead⟩ := inspectionLines_eq ⟨none, Tileset.empty, [overfull]⟩
  obtain ⟨title, htitle⟩ := wangSetLines_eq overfull
  refine ⟨head, title, colorLines overfull,
    (List.range overfull.colors.length).map fun i => overfull.shownCount (i + 1), ?_,
    (length_colorLines _).trans hcolors, ?_, ?_, ?_, by rw [hcolors, hfills]⟩
  · rw [hhead, List.flatMap_singleton, htitle]
  · rw [map_colorLines (lineNumber?_colorLine overfull), hcolors, List.getElem?_map,
      List.getElem?_range (by decide)]
    rfl
  · rw [map_colorLines (uniformCount?_colorLine overfull), List.map_map]
    rfl
  · rw [overfull.sum_shownCount, hcolors, hfills, huniform]

end CommandLine

end TileAtlas
