/-
Questions about the cells of a map, answered from its file.

`Sheet` is what a file says of a layer: a title and a list of numbers, row after row. A
layer shows a sheet (`Layer.Shows`) if its role comes from the title and its ids are the
numbers, cut or filled up to the size of the map. The id that a role gives a cell is then
the number in the last sheet of a title (`gidOf?_eq_some_iff`), and what is solid and which
zone a cell belongs to follow from it. A file whose layers are written out as lists of
numbers is read as a map that shows them (`exists_parseMap_of_writtenLayers`).
-/

import Mathlib.Algebra.Group.Nat.Defs
import TileAtlas.Proofs.LayerElements
import TileAtlas.Proofs.MapSizes

namespace TileAtlas

open Fallible Markup

/-! ### Cells of layers -/

/-- A layer as a file has it: its title and its numbers, row after row. -/
structure Sheet where
  title : String
  values : List UInt32
deriving DecidableEq, Repr

/-- The number in a cell; a number that is missing is zero. -/
def Sheet.valueAt (s : Sheet) (width : UInt32) (x y : Nat) : UInt32 :=
  s.values.getD (y * width.toNat + x) 0

/-- A layer of a grid has the role and the numbers of a sheet. -/
structure Layer.Shows (width height : UInt32) (l : Layer) (s : Sheet) : Prop where
  role_eq : l.role = Role.ofName s.title
  gids_eq : l.gids = resize (cellCount width height) 0 s.values

/-- A layer's cell holds the gid the data gave for it, or the fill. -/
theorem getElem?_resize {α : Type} {n i : Nat} (h : i < n) (fill : α) (xs : List α) :
    (resize n fill xs)[i]? = some (xs.getD i fill) := by
  rw [resize, List.getD_eq_getElem?_getD]
  by_cases hi : i < xs.length
  · have htake : i < (xs.take n).length := by
      rw [List.length_take]
      omega
    rw [List.getElem?_append_left htake, List.getElem?_take_of_lt h, List.getElem?_eq_getElem hi]
    rfl
  · have htake : (xs.take n).length ≤ i := by
      rw [List.length_take]
      omega
    rw [List.getElem?_append_right htake, List.getElem?_eq_none (Nat.le_of_not_lt hi),
      List.getElem?_replicate_of_lt]
    · rfl
    · rw [List.length_take]
      omega

/-- Cells inside a grid are numbered row after row. -/
theorem cell_lt {x y width height : Nat} (hx : x < width) (hy : y < height) :
    y * width + x < width * height := by
  calc y * width + x < y * width + width := Nat.add_lt_add_left hx _
    _ = (y + 1) * width := (Nat.succ_mul y width).symm
    _ ≤ height * width := Nat.mul_le_mul_right width hy
    _ = width * height := Nat.mul_comm height width

namespace Layer

variable {width height : UInt32} {l : Layer} {s : Sheet}

/-- A layer that shows a sheet has a gid for every cell of the map. -/
theorem Shows.length_gids (h : l.Shows width height s) :
    l.gids.length = width.toNat * height.toNat := by
  rw [h.gids_eq, length_resize]
  rfl

/-- A cell of a layer has the number that its sheet has there. -/
theorem Shows.gidAt? (h : l.Shows width height s) {x y : UInt32} (hx : x < width)
    (hy : y < height) : l.gidAt? x y width = some (s.valueAt width x.toNat y.toNat) := by
  rw [Layer.gidAt?, if_neg (UInt32.not_le.mpr hx), h.gids_eq]
  exact getElem?_resize (cell_lt (UInt32.lt_iff_toNat_lt.mp hx) (UInt32.lt_iff_toNat_lt.mp hy)) 0 _

end Layer

/-! ### The last layer of a title -/

/-- The last sheet that has a title, in any case of its ASCII letters. -/
def LastTitled (title : String) (sheets : List Sheet) (s : Sheet) : Prop :=
  ∃ before after, sheets = before ++ s :: after ∧ Text.lowerAscii s.title = title ∧
    ∀ t ∈ after, Text.lowerAscii t.title ≠ title

/-- A search from the end finds the last member that passes. -/
theorem find?_reverse_eq_some_iff_append {α : Type} {p : α → Bool} {xs : List α} {x : α} :
    xs.reverse.find? p = some x ↔
      ∃ before after, xs = before ++ x :: after ∧ p x = true ∧ ∀ y ∈ after, ¬ p y = true := by
  rw [List.find?_eq_some_iff_append]
  constructor
  · rintro ⟨hx, after, before, hxs, hafter⟩
    refine ⟨before.reverse, after.reverse, ?_, hx, ?_⟩
    · rw [← List.reverse_reverse xs, hxs]
      simp
    · intro y hy
      simpa using hafter y (List.mem_reverse.mp hy)
  · rintro ⟨before, after, rfl, hx, hafter⟩
    refine ⟨hx, after.reverse, before.reverse, by simp, ?_⟩
    intro y hy
    simpa using hafter y (List.mem_reverse.mp hy)

/-- A search from the end finds the last sheet that bears the title. -/
theorem find?_reverse_eq_some_iff {title : String} {sheets : List Sheet} {s : Sheet} :
    sheets.reverse.find? (fun t => Text.lowerAscii t.title == title) = some s ↔
      LastTitled title sheets s := by
  simp only [find?_reverse_eq_some_iff_append, beq_iff_eq]
  rfl

/-- Searches for the same thing in related lists find related things. -/
theorem find?_of_forall₂ {α β : Type} {R : α → β → Prop} {p : α → Bool} {q : β → Bool}
    (hpq : ∀ a b, R a b → p a = q b) {xs : List α} {ys : List β} (h : List.Forall₂ R xs ys) :
    Option.Rel R (xs.find? p) (ys.find? q) := by
  induction h with
  | nil => exact .none
  | @cons a b xs ys hab _ ih =>
      have hhead := hpq a b hab
      rw [List.find?_cons, List.find?_cons, ← hhead]
      cases p a with
      | true => exact .some hab
      | false => exact ih

/-- A role that layers of one title have, and no others. -/
def TitleOf (role : Role) (title : String) : Prop :=
  role ≠ .ground ∧ ∀ name, Role.ofName name = role ↔ Text.lowerAscii name = title

theorem titleOf_collision : TitleOf .collision "collision" := by
  refine ⟨by decide, ?_⟩
  intro name
  unfold Role.ofName
  split <;> simp_all

theorem titleOf_zone : TitleOf .zone "zone" := by
  refine ⟨by decide, ?_⟩
  intro name
  unfold Role.ofName
  split <;> simp_all

/-! ### Questions -/

theorem toNat_ofInt_toInt {x : Int32} (h : 0 ≤ x.toInt) :
    (UInt32.ofInt x.toInt).toNat = x.toInt.toNat := by
  have hlt := x.toInt_lt
  rw [UInt32.ofInt, UInt32.toNat_ofNat']
  omega

/-- A cell lies on a grid. -/
def OnGrid (width height : UInt32) (x y : Int32) : Prop :=
  0 ≤ x.toInt ∧ 0 ≤ y.toInt ∧ x.toInt < width.toNat ∧ y.toInt < height.toNat

namespace TileMap

variable {m : TileMap} {sheets : List Sheet} {x y : Int32}

/-- The bounds check accepts the points of the grid and no others. -/
theorem inBounds_iff : m.inBounds x y = true ↔ OnGrid m.width m.height x y := by
  simp [inBounds, OnGrid, and_assoc]

/-- The layer that serves a role shows the last sheet of its title. -/
theorem layer?_of_shows (h : List.Forall₂ (Layer.Shows m.width m.height) m.layers sheets)
    {role : Role} {title : String} (htitle : TitleOf role title) :
    Option.Rel (Layer.Shows m.width m.height) (m.layer? role)
      (sheets.reverse.find? fun t => Text.lowerAscii t.title == title) := by
  obtain ⟨hground, hname⟩ := htitle
  refine find?_of_forall₂ ?_ (List.forall₂_reverse_iff.mpr h)
  intro l s hl
  rw [Bool.eq_iff_iff, beq_iff_eq, ← hname, serves, hl.role_eq]
  simp [hground]

/-- **The id that a role gives a cell** is the number in the last sheet of its title. -/
theorem gidOf?_eq_some_iff (h : List.Forall₂ (Layer.Shows m.width m.height) m.layers sheets)
    {role : Role} {title : String} (htitle : TitleOf role title) {gid : UInt32} :
    m.gidOf? role x y = some gid ↔ OnGrid m.width m.height x y ∧
      ∃ s, LastTitled title sheets s ∧ s.valueAt m.width x.toInt.toNat y.toInt.toNat = gid := by
  have hlayer := layer?_of_shows h htitle
  simp only [← find?_reverse_eq_some_iff]
  unfold gidOf?
  by_cases hgrid : OnGrid m.width m.height x y
  · rw [if_pos (inBounds_iff.mpr hgrid)]
    simp only [hgrid, true_and]
    obtain ⟨hx, hy, hwidth, hheight⟩ := hgrid
    generalize m.layer? role = found at hlayer ⊢
    generalize sheets.reverse.find? (fun t => Text.lowerAscii t.title == title) = last at hlayer ⊢
    cases hlayer with
    | none => simp
    | @some l s hl =>
        have hx' : UInt32.ofInt x.toInt < m.width := by
          rw [UInt32.lt_iff_toNat_lt, toNat_ofInt_toInt hx]
          omega
        have hy' : UInt32.ofInt y.toInt < m.height := by
          rw [UInt32.lt_iff_toNat_lt, toNat_ofInt_toInt hy]
          omega
        simp [hl.gidAt? hx' hy', toNat_ofInt_toInt hx, toNat_ofInt_toInt hy]
  · rw [if_neg (fun hin => hgrid (inBounds_iff.mp hin))]
    simp [hgrid]

/-- **A cell is solid** outside of the map, and where the last collision layer has a tile. -/
theorem isSolid_iff (h : List.Forall₂ (Layer.Shows m.width m.height) m.layers sheets) :
    m.isSolid x y = true ↔ ¬ OnGrid m.width m.height x y ∨
      ∃ s, LastTitled "collision" sheets s ∧
        (s.valueAt m.width x.toInt.toNat y.toInt.toNat).toNat % 2 ^ 28 ≠ 0 := by
  unfold isSolid
  rw [Bool.or_eq_true, Bool.not_eq_true', ← Bool.not_eq_true, inBounds_iff, Option.any_eq_true]
  simp only [gidOf?_eq_some_iff h titleOf_collision, bne_iff_ne, stripFlips_ne_zero_iff]
  constructor
  · rintro (hout | ⟨gid, ⟨-, s, hs, rfl⟩, hgid⟩)
    · exact .inl hout
    · exact .inr ⟨s, hs, hgid⟩
  · rintro (hout | ⟨s, hs, hgid⟩)
    · exact .inl hout
    · by_cases hgrid : OnGrid m.width m.height x y
      · exact .inr ⟨_, ⟨hgrid, s, hs, rfl⟩, hgid⟩
      · exact .inl hgrid

theorem collisionAt_eq_one_iff : m.collisionAt x y = 1 ↔ m.isSolid x y = true := by
  unfold collisionAt
  by_cases hsolid : m.isSolid x y = true
  · simp [hsolid]
  · simp [hsolid]

/-- **The zone of a cell** is the number in the last zone layer, without its flips. -/
theorem zoneAt?_eq_some_iff (h : List.Forall₂ (Layer.Shows m.width m.height) m.layers sheets)
    {zone : UInt32} :
    m.zoneAt? x y = some zone ↔ OnGrid m.width m.height x y ∧ zone ≠ 0 ∧
      ∃ s, LastTitled "zone" sheets s ∧
        zone.toNat = (s.valueAt m.width x.toInt.toNat y.toInt.toNat).toNat % 2 ^ 28 := by
  unfold zoneAt?
  rw [Option.filter_eq_some_iff, Option.map_eq_some_iff]
  simp only [gidOf?_eq_some_iff h titleOf_zone, bne_iff_ne]
  constructor
  · rintro ⟨⟨gid, ⟨hgrid, s, hs, rfl⟩, rfl⟩, hzone⟩
    exact ⟨hgrid, hzone, s, hs, toNat_stripFlips _⟩
  · rintro ⟨hgrid, hzone, s, hs, hvalue⟩
    refine ⟨⟨_, ⟨hgrid, s, hs, rfl⟩, ?_⟩, hzone⟩
    rw [← UInt32.toNat_inj, toNat_stripFlips, hvalue]

end TileMap

/-! ### Files that list numbers -/

namespace Document

/-- A layer element whose data is one text that lists the numbers of a sheet. -/
structure WrittenLayer (e : Element) (s : Sheet) : Prop where
  title_eq : layerName e = s.title
  lists : ∃ data, e.child? "data" = some data ∧ IsPlainData data ∧
    ∃ text, (data.children = [.text text] ∨ data.children = [] ∧ text = "") ∧
      ListsValues text s.values

/-- A layer element that writes a sheet is read, as a layer that shows the sheet. -/
theorem WrittenLayer.exists_readLayer {e : Element} {s : Sheet} (h : WrittenLayer e s)
    (width height : UInt32) (visible : Bool) :
    ∃ l, readLayer width height visible e = .ok l ∧ l.Shows width height s := by
  obtain ⟨data, hdata, hplain, text, htext, hlists⟩ := h.lists
  have hlead : data.leadingText = text := by
    rw [Element.leadingText_eq]
    rcases htext with hchildren | ⟨hchildren, rfl⟩
    · rw [hchildren]
      rfl
    · rw [hchildren]
      rfl
  have hvalues : FieldValues data.leadingText s.values := by
    rw [hlead]
    exact hlists.fieldValues
  refine ⟨_, readLayer_eq_ok_iff.mpr ⟨data, s.values, hdata, hplain, hvalues, rfl⟩, ?_, rfl⟩
  rw [← h.title_eq]
  rfl

/-- Layer elements that list the numbers of sheets are read as layers that show them. -/
theorem exists_layers_of_written (width height : UInt32) {es : List (Bool × Element)}
    {sheets : List Sheet} (h : List.Forall₂ (fun e s => WrittenLayer e.2 s) es sheets) :
    ∃ layers, List.Forall₂ (fun e l => readLayerElement width height e = .ok l) es layers ∧
      List.Forall₂ (Layer.Shows width height) layers sheets := by
  induction h with
  | nil => exact ⟨[], .nil, .nil⟩
  | @cons e s es sheets hhead _ ih =>
      obtain ⟨l, hl, hshows⟩ := hhead.exists_readLayer width height e.1
      obtain ⟨layers, hlayers, hall⟩ := ih
      exact ⟨l :: layers, .cons hl hlayers, .cons hshows hall⟩

/-- The root element of a map in `dir`: its attributes spell the given size, its tilesets can
be read, and its layers list the numbers of sheets. -/
structure WrittenMap (dir : Path) (root : Element) (width height : UInt32)
    (sheets : List Sheet) : Prop where
  name_eq : root.name = "map"
  sizes : ∃ tileWidth tileHeight,
    WrittenSizes root.attributes width height tileWidth tileHeight
  tilesets : ∀ e ∈ root.elementsNamed "tileset", ∃ ref, readTilesetRef dir e = .ok ref
  layers : List.Forall₂ (fun e s => WrittenLayer e.2 s) (layerElementsIn true root.children) sheets

end Document

open Document

section Files

variable {text : String} {dir : Path} {root : Element} {width height : UInt32}
  {sheets : List Sheet}

/-- A map that is written out and not too large is read, and shows the numbers. -/
theorem exists_parseMap_of_writtenMap (hroot : Element.parse? text = some root)
    (hwritten : WrittenMap dir root width height sheets)
    (hcells : width.toNat * height.toNat < 2 ^ 32) :
    ∃ m, parseMap text dir = .ok m ∧ m.width = width ∧ m.height = height ∧
      List.Forall₂ (Layer.Shows width height) m.layers sheets := by
  obtain ⟨tileWidth, tileHeight, hsizes⟩ := hwritten.sizes
  have hread := hsizes.readMapSizes_eq hcells
  obtain ⟨refs, hrefs⟩ := exists_mapM_eq_ok_iff.mpr hwritten.tilesets
  obtain ⟨layers, hlayers, hshows⟩ := exists_layers_of_written width height hwritten.layers
  exact ⟨_, parseMap_eq_ok_iff.mpr
    ⟨root, _, refs, layers, hroot, hwritten.name_eq, hread, hrefs, hlayers, rfl⟩, rfl, rfl, hshows⟩

/-- **Cells have what the file says.** A map that is written out and not too large is read.
Each of its layers has as many ids as the map has cells, and in every cell the number that
is written there. A cell is solid if it is outside of the map or if the last collision
layer has a number there that is not just flips, and the zone of a cell is the number in
the last zone layer without its flips. -/
theorem cells_of_writtenMap (hroot : Element.parse? text = some root)
    (hwritten : WrittenMap dir root width height sheets)
    (hcells : width.toNat * height.toNat < 2 ^ 32) :
    ∃ m, parseMap text dir = .ok m ∧
      List.Forall₂ (fun (l : Layer) (s : Sheet) =>
          l.gids.length = width.toNat * height.toNat ∧
            ∀ x y : UInt32, x < width → y < height →
              l.gidAt? x y width = some (s.valueAt width x.toNat y.toNat))
        m.layers sheets ∧
      ∀ x y : Int32,
        (m.isSolid x y = true ↔ ¬ OnGrid width height x y ∨
          ∃ s, LastTitled "collision" sheets s ∧
            (s.valueAt width x.toInt.toNat y.toInt.toNat).toNat % 2 ^ 28 ≠ 0) ∧
        (m.collisionAt x y = 1 ↔ m.isSolid x y = true) ∧
        ∀ zone, m.zoneAt? x y = some zone ↔ OnGrid width height x y ∧ zone ≠ 0 ∧
          ∃ s, LastTitled "zone" sheets s ∧
            zone.toNat = (s.valueAt width x.toInt.toNat y.toInt.toNat).toNat % 2 ^ 28 := by
  obtain ⟨m, hparse, rfl, rfl, hshows⟩ := exists_parseMap_of_writtenMap hroot hwritten hcells
  refine ⟨m, hparse, ?_, ?_⟩
  · refine hshows.imp ?_
    intro l s hl
    exact ⟨hl.length_gids, fun x y hx hy => hl.gidAt? hx hy⟩
  · intro x y
    exact ⟨TileMap.isSolid_iff hshows, TileMap.collisionAt_eq_one_iff,
      fun zone => TileMap.zoneAt?_eq_some_iff hshows⟩

end Files

def fenceText : String :=
  "<map width='2' height='1' tilewidth='8'
  tileheight='8'><layer name='Collision'><data> 7 ,, +2147483648</data></layer
  ><layer name='ZONE'><data encoding='csv'>\n5</data></layer></map>"

def fenceElement : Element where
  name := "map"
  attributes :=
    [⟨none, "width", "2"⟩, ⟨none, "height", "1"⟩, ⟨none, "tilewidth", "8"⟩,
      ⟨none, "tileheight", "8"⟩]
  children :=
    [.element "layer" [⟨none, "name", "Collision"⟩]
        [.element "data" [] [.text " 7 ,, +2147483648"]],
      .element "layer" [⟨none, "name", "ZONE"⟩]
        [.element "data" [⟨none, "encoding", "csv"⟩] [.text "\n5"]]]

def fenceSheets : List Sheet :=
  [⟨"Collision", [7, 2147483648]⟩, ⟨"ZONE", [5]⟩]

theorem writtenSizes_fence : WrittenSizes fenceElement.attributes 2 1 8 8 := by
  have htwo : SpellsNumber "2" 2 := spellsNumber_iff.mpr (by decide +kernel)
  have hone : SpellsNumber "1" 1 := spellsNumber_iff.mpr (by decide +kernel)
  have height : SpellsNumber "8" 8 := spellsNumber_iff.mpr (by decide +kernel)
  refine ⟨?_, ⟨[], _, _, rfl, rfl, htwo, by decide⟩, ⟨[_], _, _, rfl, rfl, hone, by decide⟩,
    ⟨[_, _], _, _, rfl, rfl, height, by decide⟩, ⟨[_, _, _], _, _, rfl, rfl, height, by simp⟩⟩
  intro a ha
  simp only [fenceElement, List.mem_cons, List.not_mem_nil, or_false] at ha
  rcases ha with rfl | rfl | rfl | rfl
  · exact ⟨fun _ => ⟨_, htwo⟩, by simp, by simp⟩
  · exact ⟨fun _ => ⟨_, hone⟩, by simp, by simp⟩
  · exact ⟨fun _ => ⟨_, height⟩, by simp, by simp⟩
  · exact ⟨fun _ => ⟨_, height⟩, by simp, by simp⟩

theorem writtenMap_fence : WrittenMap ⟨"d"⟩ fenceElement 2 1 fenceSheets where
  name_eq := rfl
  sizes := ⟨8, 8, writtenSizes_fence⟩
  tilesets := by
    intro e he
    cases he
  layers := by
    refine .cons ⟨rfl, _, rfl, ⟨rfl, .inl rfl⟩, _, .inl rfl, ?_⟩
      (.cons ⟨rfl, _, rfl, ⟨rfl, .inr rfl⟩, _, .inl rfl, ?_⟩ .nil)
    · refine ⟨[" " ++ "" ++ "7" ++ " ", "", " " ++ "+" ++ "2147483648" ++ ""],
        by decide +kernel, ?_⟩
      refine .number (List.all_eq_true.mp ?_) ?_ ?_ (List.all_eq_true.mp ?_) ?_
        (List.all_eq_true.mp ?_) (.blank (List.all_eq_true.mp ?_)
          (.number (List.all_eq_true.mp ?_) ?_ ?_ (List.all_eq_true.mp ?_) ?_
            (List.all_eq_true.mp ?_) .nil))
      all_goals decide +kernel
    · refine ⟨["\n" ++ "" ++ "5" ++ ""], by decide +kernel, ?_⟩
      refine .number (List.all_eq_true.mp ?_) ?_ ?_ (List.all_eq_true.mp ?_) ?_
        (List.all_eq_true.mp ?_) .nil
      all_goals decide +kernel

set_option maxRecDepth 4000 in
theorem parse?_fence : Element.parse? fenceText = some fenceElement :=
  (parse?_of_toList fenceText String.toList_ofList).trans (by decide +kernel)

/-- A fence on the left of two cells, of which the left one is a zone. -/
theorem fence_cells :
    ∃ m, parseMap fenceText ⟨"d"⟩ = .ok m ∧ m.isSolid 0 0 = true ∧ m.isSolid (-1) 0 = true ∧
      m.zoneAt? 0 0 = some 5 := by
  obtain ⟨m, hparse, -, hcells⟩ := cells_of_writtenMap parse?_fence writtenMap_fence (by decide)
  refine ⟨m, hparse, (hcells 0 0).1.mpr (.inr ?_), (hcells (-1) 0).1.mpr (.inl ?_),
    ((hcells 0 0).2.2 5).mpr ⟨?_, ?_, ?_⟩⟩
  · exact ⟨_, ⟨[], _, rfl, by decide +kernel, by decide +kernel⟩, by decide +kernel⟩
  · rintro ⟨hx, -⟩
    exact absurd hx (by decide)
  · exact ⟨by decide, by decide, by decide, by decide⟩
  · decide
  · exact ⟨_, ⟨[_], [], rfl, by decide +kernel, by decide +kernel⟩, by decide +kernel⟩

end TileAtlas
