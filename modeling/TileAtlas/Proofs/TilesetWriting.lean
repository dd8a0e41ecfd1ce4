/-
Writing tilesets, and reading them back.

`tilesetElement` is the element of a tileset with its Wang sets: every field in its
attribute, every record in an element of its own. A reader that meets the attributes and
the elements of it in another order reads the same tileset.

The proof follows the elements from the inside out, with one lemma for each kind of
element: whatever is a rearrangement of the written element is read as what was written.
-/

import TileAtlas.Proofs.Fallible
import TileAtlas.Proofs.Reordering
import TileAtlas.Proofs.Tables
import TileAtlas.Proofs.ValueTexts

namespace TileAtlas.Document

open Fallible Markup
open Text (trim_toString_nat trim_toString_int uint32?_toString int32?_toString)
open Wang (WangSet Rgba)

/-! ### The written form -/

def uint32Text (n : UInt32) : String := toString n.toNat

def int32Text (n : Int32) : String := toString n.toInt

/-- What a writer may choose: under which of its two names the class of a tile is written,
and whether empty lists are. -/
structure Style where
  olderClass : UInt32 → Bool
  emptyLists : Bool

/-- A list that is left out when it is empty, unless the style keeps it. -/
def Style.kept {α : Type} (style : Style) (isEmpty : Bool) (list : α) : List α :=
  if isEmpty && !style.emptyLists then [] else [list]

def Style.className (style : Style) (id : UInt32) : String :=
  if style.olderClass id then "type" else "class"

def propertyElement (p : String × Property) : Element :=
  .write "property" [("name", p.1), ("type", p.2.typeName), ("value", p.2.raw)] []

def propertiesElement (ps : Properties) : Element :=
  .write "properties" [] (ps.entries.map propertyElement)

def tileOffsetElement (o : TileOffset) : Element :=
  .write "tileoffset" [("x", int32Text o.x), ("y", int32Text o.y)] []

def imageElement (i : SheetImage) : Element :=
  .write "image" ([("source", i.source), ("width", uint32Text i.width),
    ("height", uint32Text i.height)] ++ i.trans.toList.map fun c => ("trans", c)) []

def tileElement (style : Style) (id : UInt32) (d : TileData) : Element :=
  .write "tile" (("id", uint32Text id) ::
      d.className.toList.map fun c => (style.className id, c))
    ((style.kept d.properties.isEmpty d.properties).map propertiesElement)

def wangColorElement (c : Wang.Color) : Element :=
  .write "wangcolor" [("name", c.name), ("color", c.color.text), ("tile", tileRefText c.tile),
    ("probability", c.probability.plain)] []

def wangTileElement (t : Wang.Tile) : Element :=
  .write "wangtile" [("tileid", uint32Text t.tileId), ("wangid", t.wangId.text)] []

def wangSetElement (s : WangSet) : Element :=
  .write "wangset" [("name", s.name), ("type", s.setType.name), ("tile", tileRefText s.tile)]
    (s.colors.map wangColorElement ++ s.tiles.map wangTileElement)

inductive Part where
  | offset (o : TileOffset)
  | image (i : SheetImage)
  | properties (ps : Properties)
  | tile (id : UInt32) (d : TileData)
  | wangSets (sets : List WangSet)

def Part.element (style : Style) : Part → Element
  | .offset o => tileOffsetElement o
  | .image i => imageElement i
  | .properties ps => propertiesElement ps
  | .tile id d => tileElement style id d
  | .wangSets sets => .write "wangsets" [] (sets.map wangSetElement)

def parts (style : Style) (t : Tileset) (sets : List WangSet) : List Part :=
  t.tileOffset.toList.map .offset ++ t.image.toList.map .image ++
    (style.kept t.properties.isEmpty t.properties).map .properties ++
    t.tiles.entries.map (fun entry => .tile entry.1 entry.2) ++
    (style.kept sets.isEmpty sets).map .wangSets

def tilesetElement (style : Style) (t : Tileset) (sets : List WangSet) : Element :=
  .write "tileset" [("name", t.name), ("class", t.className),
      ("tilewidth", uint32Text t.tileWidth), ("tileheight", uint32Text t.tileHeight),
      ("tilecount", uint32Text t.tileCount), ("columns", uint32Text t.columns),
      ("spacing", uint32Text t.spacing), ("margin", uint32Text t.margin)]
    ((parts style t sets).map (Part.element style))

/-! ### Single values -/

/-- A value without blanks around it is read as its own text. -/
theorem readValue_of_trim {α : Type} {read? : String → Option α} {element name text : String}
    {value : α} (htrim : Text.trim text = text) (hread : read? text = some value) :
    readValue read? element name text = .ok value := by
  rw [readValue, htrim, hread]

@[simp] theorem readValue_uint32 (element name : String) (n : UInt32) :
    readValue Text.uint32? element name (uint32Text n) = .ok n :=
  readValue_of_trim (trim_toString_nat _) (uint32?_toString n)

@[simp] theorem readValue_int32 (element name : String) (n : Int32) :
    readValue Text.int32? element name (int32Text n) = .ok n :=
  readValue_of_trim (trim_toString_int _) (int32?_toString n)

@[simp] theorem readValue_tileRef (element name : String) (r : Option UInt32) :
    readValue tileRef? element name (tileRefText r) = .ok r :=
  readValue_of_trim (trim_tileRefText r) (tileRef?_tileRefText r)

@[simp] theorem readValue_color (element name : String) (c : Rgba) :
    readValue Rgba.read? element name c.text = .ok c :=
  readValue_of_trim c.trim_text c.read?_text

theorem readValue_float {f : Number.Format} (element name : String) {x : Number.Binary f}
    (h : x.ReadsBack) : readValue (Number.Binary.read? f) element name x.plain = .ok x :=
  readValue_of_trim (Number.trim_plain x) h

/-! ### Loops over attributes -/

/-- A field of a record that is read attribute by attribute: its value once its attribute
is met, and before that what the loop starts with. -/
def met {α : Type} (seen : List String) (name : String) (value start : α) : α :=
  if name ∈ seen then value else start

/-- A part that was met has the value that was written. -/
theorem met_of_mem {α : Type} {seen : List String} {name : String} (h : name ∈ seen)
    (value start : α) : met seen name value start = value := if_pos h

@[simp] theorem met_cons_self {α : Type} (seen : List String) (name : String) (value start : α) :
    met (name :: seen) name value start = value := if_pos List.mem_cons_self

theorem met_cons_of_ne {α : Type} {seen : List String} {name other : String} (h : name ≠ other)
    (value start : α) : met (other :: seen) name value start = met seen name value start := by
  simp [met, h]

theorem readTileOffset_of_reordered {o : TileOffset} {e : Element}
    (h : Reordered (tileOffsetElement o) e) : readTileOffset e = .ok o := by
  unfold readTileOffset
  refine h.foldlM_attributes (fun seen => (⟨met seen "x" o.x 0, met seen "y" o.y 0⟩ : TileOffset))
    ?_ ?_
  · intro seen a ha
    simp only [List.mem_cons, List.not_mem_nil, or_false] at ha
    rcases ha with rfl | rfl
    · simp [Attribute.plain, met_cons_of_ne, Except.map]
    · simp [Attribute.plain, met_cons_of_ne, Except.map]
  · intro seen hseen
    simp only [List.forall_mem_cons] at hseen
    simp only [met_of_mem, hseen]

theorem readImage_of_reordered {i : SheetImage} {e : Element}
    (h : Reordered (imageElement i) e) : readImage e = .ok i := by
  have hloop : e.attributes.foldlM readImageAttribute (⟨"", 0, 0, none⟩, none) =
      .ok (⟨"", i.width, i.height, i.trans⟩, some i.source) := by
    refine h.foldlM_attributes (fun seen => ((⟨"", met seen "width" i.width 0,
      met seen "height" i.height 0, met seen "trans" i.trans none⟩ : SheetImage),
      met seen "source" (some i.source) none)) ?_ ?_
    · intro seen a ha
      simp only [List.mem_append, List.mem_cons, List.not_mem_nil, or_false, List.mem_map,
        Option.mem_toList] at ha
      rcases ha with (rfl | rfl | rfl) | ⟨c, hc, rfl⟩
      · simp [readImageAttribute, Attribute.plain, met_cons_of_ne]
      · simp [readImageAttribute, Attribute.plain, met_cons_of_ne, Except.map]
      · simp [readImageAttribute, Attribute.plain, met_cons_of_ne, Except.map]
      · simp [readImageAttribute, Attribute.plain, met_cons_of_ne, hc]
    · intro seen hseen
      simp only [List.cons_append, List.forall_mem_cons] at hseen
      obtain ⟨hsource, hwidth, hheight, htrans⟩ := hseen
      have htrans : met seen "trans" i.trans none = i.trans := by
        cases hi : i.trans with
        | none => simp [met]
        | some c =>
            refine met_of_mem (htrans ("trans", c) ?_) _ _
            simp [hi]
      simp only [met_of_mem, hsource, hwidth, hheight, htrans]
  simp only [readImage, hloop, require, bind, Except.bind, pure, Except.pure]

theorem readWangColor_of_reordered {c : Wang.Color} {e : Element}
    (hweight : c.probability.ReadsBack) (h : Reordered (wangColorElement c) e) : readWangColor e = .ok c := by
  unfold readWangColor
  refine h.foldlM_attributes (fun seen => (⟨met seen "name" c.name "",
    met seen "color" c.color Rgba.white, met seen "tile" c.tile none,
    met seen "probability" c.probability Wang.unitWeight⟩ : Wang.Color)) ?_ ?_
  · intro seen a ha
    simp only [List.mem_cons, List.not_mem_nil, or_false] at ha
    rcases ha with rfl | rfl | rfl | rfl
    · simp [Attribute.plain, met_cons_of_ne]
    · simp [Attribute.plain, met_cons_of_ne, Except.map]
    · simp [Attribute.plain, met_cons_of_ne, Except.map]
    · simp [Attribute.plain, met_cons_of_ne, readValue_float _ _ hweight, Except.map]
  · intro seen hseen
    simp only [List.forall_mem_cons] at hseen
    simp only [met_of_mem, hseen]

/-- The attributes of a Wang set give all of it but its colors and tiles. -/
theorem foldlM_readWangSetAttribute {s : WangSet} {e : Element}
    (h : Reordered (wangSetElement s) e) :
    e.attributes.foldlM readWangSetAttribute (WangSet.blank "" .corner, none) =
      .ok (⟨s.name, .corner, s.tile, [], []⟩, some s.setType) := by
  refine h.foldlM_attributes (fun seen => ((⟨met seen "name" s.name "", .corner,
    met seen "tile" s.tile none, [], []⟩ : WangSet), met seen "type" (some s.setType) none)) ?_ ?_
  · intro seen a ha
    simp only [List.mem_cons, List.not_mem_nil, or_false] at ha
    rcases ha with rfl | rfl | rfl
    · simp [readWangSetAttribute, Attribute.plain, met_cons_of_ne]
    · simp [readWangSetAttribute, Attribute.plain, met_cons_of_ne]
    · simp [readWangSetAttribute, Attribute.plain, met_cons_of_ne, Except.map]
  · intro seen hseen
    simp only [List.forall_mem_cons] at hseen
    simp only [met_of_mem, hseen]

/-- The attributes of a tileset give all of it but what is in the elements inside. -/
theorem foldlM_readTilesetAttribute {style : Style} {t : Tileset} {sets : List WangSet}
    {e : Element} (h : Reordered (tilesetElement style t sets) e) :
    e.attributes.foldlM readTilesetAttribute TilesetHead.empty =
      .ok ⟨{ t with
          tileWidth := 0, tileHeight := 0, tileOffset := none, image := none,
          properties := ∅, tiles := ∅ },
        some t.tileWidth, some t.tileHeight⟩ := by
  refine h.foldlM_attributes (fun seen => (⟨{ Tileset.empty with
      name := met seen "name" t.name "",
      className := met seen "class" t.className "",
      tileCount := met seen "tilecount" t.tileCount 0,
      columns := met seen "columns" t.columns 0,
      spacing := met seen "spacing" t.spacing 0,
      margin := met seen "margin" t.margin 0 },
    met seen "tilewidth" (some t.tileWidth) none,
    met seen "tileheight" (some t.tileHeight) none⟩ : TilesetHead)) ?_ ?_
  · intro seen a ha
    simp only [List.mem_cons, List.not_mem_nil, or_false] at ha
    rcases ha with rfl | rfl | rfl | rfl | rfl | rfl | rfl | rfl
    · simp [readTilesetAttribute, Attribute.plain, met_cons_of_ne]
    · simp [readTilesetAttribute, Attribute.plain, met_cons_of_ne]
    all_goals simp [readTilesetAttribute, Attribute.plain, met_cons_of_ne, Except.map]
  · intro seen hseen
    simp only [List.forall_mem_cons] at hseen
    simp only [met_of_mem, hseen]
    rfl

/-! ### Elements with look-ups -/

theorem readProperty_of_reordered {p : String × Property} {e : Element} (hfloat : p.2.ReadsBack)
    (h : Reordered (propertyElement p) e) : readProperty e = .ok p := by
  have hnodup : ([("name", p.1), ("type", p.2.typeName), ("value", p.2.raw)].map (·.1)).Nodup := by
    simp
  have hname : e.attribute? "name" = some p.1 := h.attribute?_of_mem hnodup (by simp)
  have htype : e.attribute? "type" = some p.2.typeName := h.attribute?_of_mem hnodup (by simp)
  have hvalue : e.attribute? "value" = some p.2.raw := h.attribute?_of_mem hnodup (by simp)
  simp only [readProperty, hname, htype, hvalue, require, bind, Except.bind, Option.getD_some,
    Option.some_or, Property.read?_raw hfloat]
  rfl

theorem readWangTile_of_reordered {t : Wang.Tile} {e : Element}
    (h : Reordered (wangTileElement t) e) : readWangTile e = .ok t := by
  have hnodup : ([("tileid", uint32Text t.tileId), ("wangid", t.wangId.text)].map (·.1)).Nodup := by
    simp
  have hid : e.attribute? "tileid" = some (uint32Text t.tileId) :=
    h.attribute?_of_mem hnodup (by simp)
  have hwang : e.attribute? "wangid" = some t.wangId.text := h.attribute?_of_mem hnodup (by simp)
  simp only [readWangTile, hid, hwang, require, bind, Except.bind, readValue_uint32,
    t.wangId.read_text]
  rfl

/-! ### Lists of elements -/

/-- Properties are read in any order, since they are kept by name. -/
theorem readProperties_of_reordered {ps : Properties} {e : Element} (hfloats : ps.ReadBack)
    (h : Reordered (propertiesElement ps) e) : readProperties e = .ok ps := by
  obtain ⟨qs, hperm, hqs⟩ := h.exists_elements
  have hmap : (e.elementsNamed "property").mapM readProperty = .ok qs := by
    rw [h.elementsNamed_eq_elements fun _ => rfl, mapM_eq_ok_iff]
    exact hqs.imp fun _ q hq => readProperty_of_reordered (hfloats q hq.1) hq.2
  simp only [readProperties, hmap, bind, Except.bind, Table.ofList_eq_of_perm hperm]
  rfl

/-- The property list of a tile, which may be left out if it is empty. -/
theorem child?_properties {style : Style} {as : List (String × String)} {ps : Properties}
    {e : Element} (hfloats : ps.ReadBack)
    (h : Reordered (.write "tile" as ((style.kept ps.isEmpty ps).map propertiesElement)) e) :
    (e.child? "properties" = none ∧ ps = ∅) ∨
      ∃ c, e.child? "properties" = some c ∧ readProperties c = .ok ps := by
  obtain ⟨qs, hperm, hqs⟩ := h.exists_elements
  unfold Style.kept at hperm
  split at hperm
  · rename_i hleft
    rw [List.perm_nil.mp hperm, List.forall₂_nil_right_iff] at hqs
    left
    refine ⟨?_, Table.eq_empty_of_isEmpty (Bool.and_eq_true_iff.mp hleft).1⟩
    rw [Element.child?, hqs]
    rfl
  · rw [List.perm_singleton.mp hperm] at hqs
    obtain ⟨c, cs, ⟨-, hc⟩, hcs, helements⟩ := List.forall₂_cons_right_iff.mp hqs
    have hname : c.name = "properties" := hc.name_eq
    right
    refine ⟨c, ?_, readProperties_of_reordered hfloats hc⟩
    rw [Element.child?, helements, List.find?_cons_of_pos (by rw [hname]; rfl)]

/-- A tile is read with its data, under either name for its class. -/
theorem readTile_of_reordered {style : Style} {id : UInt32} {d : TileData} {e : Element}
    (hfloats : d.properties.ReadBack) (h : Reordered (tileElement style id d) e) :
    readTile e = .ok (id, d) := by
  have hnodup : ((("id", uint32Text id) ::
      d.className.toList.map fun c => (style.className id, c)).map (·.1)).Nodup := by
    cases d.className with
    | none => simp
    | some c =>
        cases hstyle : style.olderClass id with
        | false => simp [Style.className, hstyle]
        | true => simp [Style.className, hstyle]
  have hid : e.attribute? "id" = some (uint32Text id) :=
    h.attribute?_of_mem hnodup List.mem_cons_self
  have hclass : (e.attribute? "class").or (e.attribute? "type") = d.className := by
    cases hd : d.className with
    | none =>
        rw [h.attribute?_of_notMem (by simp [hd]), h.attribute?_of_notMem (by simp [hd])]
        rfl
    | some c =>
        cases hstyle : style.olderClass id with
        | false =>
            have hmem : ("class", c) ∈ ("id", uint32Text id) ::
                d.className.toList.map fun c => (style.className id, c) := by
              simp [hd, Style.className, hstyle]
            rw [h.attribute?_of_mem hnodup hmem]
            rfl
        | true =>
            have hmem : ("type", c) ∈ ("id", uint32Text id) ::
                d.className.toList.map fun c => (style.className id, c) := by
              simp [hd, Style.className, hstyle]
            rw [h.attribute?_of_notMem (by simp [hd, Style.className, hstyle]),
              h.attribute?_of_mem hnodup hmem]
            rfl
  rcases child?_properties hfloats h with ⟨hchild, hempty⟩ | ⟨c, hchild, hread⟩
  · simp only [readTile, hid, hclass, hchild, require, bind, Except.bind, readValue_uint32, pure,
      Except.pure, ← hempty]
  · simp only [readTile, hid, hclass, hchild, hread, require, bind, Except.bind, readValue_uint32,
      pure, Except.pure]

/-- The elements inside a Wang set add its colors and its tiles, however they are mixed. -/
theorem foldlM_readWangSetChild {es : List Element} {colors : List Wang.Color}
    {tiles : List Wang.Tile}
    (hcolors : (es.filter fun e => e.name == "wangcolor").mapM readWangColor = .ok colors)
    (htiles : (es.filter fun e => e.name == "wangtile").mapM readWangTile = .ok tiles)
    (s : WangSet) :
    es.foldlM readWangSetChild s =
      .ok { s with colors := s.colors ++ colors, tiles := s.tiles ++ tiles } := by
  rw [mapM_eq_ok_iff] at hcolors htiles
  induction es generalizing s colors tiles with
  | nil =>
      cases hcolors
      cases htiles
      simp only [List.foldlM_nil, List.append_nil]
      rfl
  | cons e es ih =>
      rw [List.foldlM_cons]
      by_cases hcolor : e.name = "wangcolor"
      · simp only [List.filter_cons, hcolor] at hcolors htiles
        obtain ⟨c, cs, hc, hcs, rfl⟩ := List.forall₂_cons_left_iff.mp hcolors
        simp only [readWangSetChild, hcolor, hc, Except.map, bind, Except.bind]
        rw [ih hcs htiles]
        simp
      · by_cases htile : e.name = "wangtile"
        · simp only [List.filter_cons, htile] at hcolors htiles
          obtain ⟨t, ts, ht, hts, rfl⟩ := List.forall₂_cons_left_iff.mp htiles
          simp only [readWangSetChild, htile, ht, Except.map, bind, Except.bind]
          rw [ih hcolors hts]
          simp
        · rw [List.filter_cons_of_neg (by simpa using hcolor)] at hcolors
          rw [List.filter_cons_of_neg (by simpa using htile)] at htiles
          simp only [readWangSetChild, bind, Except.bind]
          exact ih hcolors htiles s

/-- A Wang set is read as long as its colors and tiles keep their order among themselves. -/
theorem readWangSet_of_reordered {s : WangSet} {e : Element}
    (hweights : ∀ c ∈ s.colors, c.probability.ReadsBack)
    (h : Reordered (wangSetElement s) e) : readWangSet e = .ok s := by
  have hcolors : (e.elementsNamed "wangcolor").mapM readWangColor = .ok s.colors := by
    refine h.mapM_elementsNamed wangColorElement (by decide) ?_ fun c hc _ hwritten =>
      readWangColor_of_reordered (hweights c hc) hwritten
    simp [Element.elementsNamed, wangSetElement, List.filter_map, Function.comp_def,
      wangColorElement, wangTileElement]
  have htiles : (e.elementsNamed "wangtile").mapM readWangTile = .ok s.tiles := by
    refine h.mapM_elementsNamed wangTileElement (by decide) ?_ fun _ _ _ hwritten =>
      readWangTile_of_reordered hwritten
    simp [Element.elementsNamed, wangSetElement, List.filter_map, Function.comp_def,
      wangColorElement, wangTileElement]
  simp only [readWangSet, foldlM_readWangSetAttribute h, require, bind, Except.bind]
  rw [foldlM_readWangSetChild hcolors htiles]
  simp

/-! ### Parts -/

/-- Every floating-point number comes back from its text, and a tile says something. -/
def Part.Readable : Part → Prop
  | .properties ps => ps.ReadBack
  | .tile _ d => d.isEmpty = false ∧ d.properties.ReadBack
  | .wangSets sets => ∀ s ∈ sets, ∀ c ∈ s.colors, c.probability.ReadsBack
  | _ => True

/-- What a part adds to a tileset and its Wang sets. -/
def Part.apply (t : Tileset × List WangSet) : Part → Tileset × List WangSet
  | .offset o => ({ t.1 with tileOffset := some o }, t.2)
  | .image i => ({ t.1 with image := some i }, t.2)
  | .properties ps => ({ t.1 with properties := ps }, t.2)
  | .tile id d => ({ t.1 with tiles := t.1.tiles.insert id d }, t.2)
  | .wangSets sets => (t.1, t.2 ++ sets)

/-- The element of a part adds the part. -/
theorem readTilesetChild_of_reordered {style : Style} {p : Part} {e : Element} (hp : p.Readable)
    (h : Reordered (p.element style) e) (t : Tileset × List WangSet) :
    readTilesetChild t e = .ok (p.apply t) := by
  have hname : e.name = (p.element style).name := h.name_eq
  unfold readTilesetChild
  rw [hname]
  cases p with
  | offset o =>
      have hread := readTileOffset_of_reordered h
      simp only [Part.element, tileOffsetElement, Element.name_write, hread, Except.map, Part.apply]
  | image i =>
      have hread := readImage_of_reordered h
      simp only [Part.element, imageElement, Element.name_write, hread, Except.map, Part.apply]
  | properties ps =>
      have hread := readProperties_of_reordered hp h
      simp only [Part.element, propertiesElement, Element.name_write, hread, Except.map, Part.apply]
  | tile id d =>
      have hread := readTile_of_reordered hp.2 h
      have hempty : d.isEmpty = false := hp.1
      simp only [Part.element, tileElement, Element.name_write, hread, Except.map, Part.apply]
      simp [hempty]
  | wangSets sets =>
      have hread : (e.elementsNamed "wangset").mapM readWangSet = .ok sets := by
        refine h.mapM_elementsNamed wangSetElement (by decide) ?_ fun s hs _ hwritten =>
          readWangSet_of_reordered (hp s hs) hwritten
        simp [Element.elementsNamed, Part.element, List.filter_map, Function.comp_def,
          wangSetElement]
      simp only [Part.element, Element.name_write, hread, Except.map, Part.apply]

def Part.offset? : Part → Option TileOffset
  | .offset o => some o
  | _ => none

def Part.image? : Part → Option SheetImage
  | .image i => some i
  | _ => none

def Part.properties? : Part → Option Properties
  | .properties ps => some ps
  | _ => none

def Part.tile? : Part → Option (UInt32 × TileData)
  | .tile id d => some (id, d)
  | _ => none

def Part.wangSets? : Part → Option (List WangSet)
  | .wangSets sets => some sets
  | _ => none

/-- Parts of one kind do not touch what those of another kind add. -/
theorem foldl_apply (ps : List Part) (t : Tileset × List WangSet) :
    ps.foldl Part.apply t =
      ({ t.1 with
          tileOffset := (ps.filterMap Part.offset?).foldl (fun _ o => some o) t.1.tileOffset
          image := (ps.filterMap Part.image?).foldl (fun _ i => some i) t.1.image
          properties := (ps.filterMap Part.properties?).foldl (fun _ q => q) t.1.properties
          tiles := (ps.filterMap Part.tile?).foldl (fun t e => t.insert e.1 e.2) t.1.tiles },
        (ps.filterMap Part.wangSets?).foldl (· ++ ·) t.2) := by
  induction ps generalizing t with
  | nil => rfl
  | cons p ps ih =>
      rw [List.foldl_cons, ih]
      cases p <;> rfl

/-- Parts that occur at most once are met in one order only. -/
theorem eq_of_perm_of_length_le {α : Type} {xs ys : List α} (h : xs.Perm ys)
    (hlength : ys.length ≤ 1) : xs = ys := by
  match ys with
  | [] => exact List.perm_nil.mp h
  | [y] => exact List.perm_singleton.mp h

theorem length_kept_le {α : Type} (style : Style) (isEmpty : Bool) (list : α) :
    (style.kept isEmpty list).length ≤ 1 := by
  unfold Style.kept
  split <;> simp

/-- A list that is left out only if it is what a loop starts with is what the loop ends
with. -/
theorem foldl_kept {α : Type} (style : Style) {step : α → α → α} {isEmpty : Bool} {list start : α}
    (hempty : isEmpty = true → list = start) (hstep : step start list = list) :
    (style.kept isEmpty list).foldl step start = list := by
  unfold Style.kept
  split
  · rename_i hleft
    exact (hempty (Bool.and_eq_true_iff.mp hleft).1).symm
  · exact hstep

/-- The parts of a tileset make it up, in whatever order they come. -/
theorem foldl_apply_of_perm {style : Style} {t : Tileset} {sets : List WangSet} {ps : List Part}
    (h : ps.Perm (parts style t sets)) :
    ps.foldl Part.apply
        ({ t with tileOffset := none, image := none, properties := ∅, tiles := ∅ }, []) =
      (t, sets) := by
  have hoffset : (ps.filterMap Part.offset?).Perm t.tileOffset.toList := by
    simpa [parts, List.filterMap_map, Function.comp_def, Part.offset?] using
      h.filterMap Part.offset?
  have himage : (ps.filterMap Part.image?).Perm t.image.toList := by
    simpa [parts, List.filterMap_map, Function.comp_def, Part.image?] using
      h.filterMap Part.image?
  have hproperties :
      (ps.filterMap Part.properties?).Perm (style.kept t.properties.isEmpty t.properties) := by
    simpa [parts, List.filterMap_map, Function.comp_def, Part.properties?] using
      h.filterMap Part.properties?
  have htiles : (ps.filterMap Part.tile?).Perm t.tiles.entries := by
    simpa [parts, List.filterMap_map, Function.comp_def, Part.tile?] using h.filterMap Part.tile?
  have hsets : (ps.filterMap Part.wangSets?).Perm (style.kept sets.isEmpty sets) := by
    simpa [parts, List.filterMap_map, Function.comp_def, Part.wangSets?] using
      h.filterMap Part.wangSets?
  -- Parts of a kind occur once at most, except for tiles, whose table does not see the order.
  have hoption {α : Type} (o : Option α) : o.toList.foldl (fun _ a => some a) none = o := by
    cases o <;> rfl
  rw [foldl_apply, eq_of_perm_of_length_le hoffset Option.length_toList_le,
    eq_of_perm_of_length_le himage Option.length_toList_le,
    eq_of_perm_of_length_le hproperties (length_kept_le _ _ _),
    eq_of_perm_of_length_le hsets (length_kept_le _ _ _)]
  have hinsert : (ps.filterMap Part.tile?).foldl (fun t e => t.insert e.1 e.2) ∅ = t.tiles :=
    Table.ofList_eq_of_perm htiles
  have hlist : (style.kept t.properties.isEmpty t.properties).foldl (fun _ q => q) ∅ =
      t.properties := foldl_kept style Table.eq_empty_of_isEmpty rfl
  have happend : (style.kept sets.isEmpty sets).foldl (· ++ ·) [] = sets :=
    foldl_kept style List.isEmpty_iff.mp (List.nil_append sets)
  simp only [hoption, hlist, hinsert, happend]

/-! ### Tilesets -/

/-- Every floating-point number of a tileset comes back from its text. -/
structure FloatsReadBack (t : Tileset) (sets : List WangSet) : Prop where
  properties : t.properties.ReadBack
  tiles : ∀ entry ∈ t.tiles.entries, entry.2.properties.ReadBack
  weights : ∀ s ∈ sets, ∀ c ∈ s.colors, c.probability.ReadsBack

/-- Every part that is written can be read, wherever it stands among the others. -/
theorem readable_of_mem_parts {style : Style} {t : Tileset} {sets : List WangSet} {p : Part}
    (htiles : ∀ entry ∈ t.tiles.entries, entry.2.isEmpty = false)
    (hfloats : FloatsReadBack t sets) (hp : p ∈ parts style t sets) : p.Readable := by
  have hkept {α : Type} {isEmpty : Bool} {list l : α} (hl : l ∈ style.kept isEmpty list) :
      l = list := by
    unfold Style.kept at hl
    split at hl
    · cases hl
    · exact List.mem_singleton.mp hl
  simp only [parts, List.mem_append, List.mem_map] at hp
  rcases hp with (((⟨o, -, rfl⟩ | ⟨i, -, rfl⟩) | ⟨qs, hqs, rfl⟩) | ⟨entry, hentry, rfl⟩) |
    ⟨ss, hss, rfl⟩
  · exact trivial
  · exact trivial
  · exact hkept hqs ▸ hfloats.properties
  · exact ⟨htiles entry hentry, hfloats.tiles entry hentry⟩
  · exact hkept hss ▸ hfloats.weights

/-- **Reading undoes writing.** Whatever the order of attributes and elements, and whatever
the style, the element of a tileset is read as the tileset and its Wang sets. A tile about
which nothing is said has no entry to come back to, so there must be none. -/
theorem readTileset_of_reordered {style : Style} {t : Tileset} {sets : List WangSet} {e : Element}
    (htiles : ∀ entry ∈ t.tiles.entries, entry.2.isEmpty = false)
    (hfloats : FloatsReadBack t sets) (h : Reordered (tilesetElement style t sets) e) :
    readTileset e = .ok (t, sets) := by
  obtain ⟨ps, hperm, hps⟩ := h.exists_elements
  have hsteps : List.Forall₂ (fun c p => ∀ s, readTilesetChild s c = .ok (Part.apply s p))
      e.elements ps :=
    hps.imp fun _ _ hc =>
      readTilesetChild_of_reordered (readable_of_mem_parts htiles hfloats hc.1) hc.2
  simp only [readTileset, foldlM_readTilesetAttribute h, require, bind, Except.bind,
    foldlM_eq_ok_of_forall₂ hsteps]
  exact congrArg Except.ok (foldl_apply_of_perm hperm)

/-! ### A tileset in another order -/

def pond : Tileset where
  name := "pond"
  className := "water"
  tileWidth := 16
  tileHeight := 8
  tileCount := 12
  columns := 4
  spacing := 1
  margin := 2
  tileOffset := some ⟨-3, 5⟩
  image := some ⟨"pond.png", 70, 30, some "ff00ff"⟩
  properties := .ofList [("depth", .float (Number.Binary.ofRatio Number.binary64 false 3 2))]
  tiles := .ofList [(1, ⟨some "reed", ∅⟩), (7, ⟨none, .ofList [("solid", .bool true)]⟩)]

def shore : WangSet where
  name := "shore"
  setType := .corner
  tile := none
  colors := [⟨"mud", ⟨96, 64, 32, 255⟩, some 4, Wang.unitWeight⟩,
    ⟨"water", ⟨0, 64, 255, 128⟩, none, Wang.unitWeight⟩]
  tiles := [⟨4, .ofColors 0 1 0 2 0 1 0 2⟩]

namespace PondElement

def mud : Element :=
  .write "wangcolor" [("probability", "1"), ("tile", "4"), ("color", "#604020"), ("name", "mud")] []

def water : Element :=
  .write "wangcolor" [("name", "water"), ("color", "#800040ff"), ("tile", "-1"),
    ("probability", "1")] []

def corners : Element :=
  .write "wangtile" [("wangid", "0,1,0,2,0,1,0,2"), ("tileid", "4")] []

def set : Element :=
  .write "wangset" [("tile", "-1"), ("type", "corner"), ("name", "shore")] [mud, corners, water]

def offset : Element :=
  .write "tileoffset" [("y", "5"), ("x", "-3")] []

def image : Element :=
  .write "image" [("trans", "ff00ff"), ("height", "30"), ("width", "70"), ("source", "pond.png")] []

def depth : Element :=
  .write "property" [("type", "float"), ("name", "depth"), ("value", "1.5")] []

def reed : Element :=
  .write "tile" [("type", "reed"), ("id", "1")] []

def solid : Element :=
  .write "property" [("value", "true"), ("type", "bool"), ("name", "solid")] []

def inside : List Element :=
  [offset, image, .write "properties" [] [depth], reed,
    .write "tile" [("id", "7")] [.write "properties" [] [solid]], .write "wangsets" [] [set]]

/-- The element of the tileset with attributes and elements in another order, a comment and
a line break among them, and the class of a tile under its older name. -/
def whole : Element :=
  ⟨"tileset", [("margin", "2"), ("columns", "4"), ("name", "pond"), ("tileheight", "8"),
      ("tilewidth", "16"), ("spacing", "1"), ("tilecount", "12"), ("class", "water")].map .plain,
    .comment "shore first" :: inside.reverse.map Element.node ++ [.text "\n"]⟩

theorem whole_reordered :
    Reordered (tilesetElement ⟨fun _ => true, false⟩ pond [shore]) whole := by
  have hproperties {p : String × Property} {e : Element} (h : Reordered (propertyElement p) e) :
      Reordered (.write "properties" [] [propertyElement p]) (.write "properties" [] [e]) :=
    .of_elements [e] (.refl _) (.cons h .nil) (.refl _) fun _ _ => rfl
  have hdepth : Reordered (propertyElement ("depth", .float (.ofRatio Number.binary64 false 3 2)))
      depth := .of_attributes (by decide +kernel)
  have hsolid : Reordered (propertyElement ("solid", .bool true)) solid :=
    .of_attributes (by decide +kernel)
  have hset : Reordered (wangSetElement shore) set := by
    refine .of_elements [mud, water, corners] (by decide +kernel) ?_ (by decide +kernel)
      (by decide +kernel)
    refine .cons ?_ (.cons ?_ (.cons ?_ .nil))
    all_goals exact .of_attributes (by decide +kernel)
  have heach : List.Forall₂ Reordered
      (tilesetElement ⟨fun _ => true, false⟩ pond [shore]).elements inside := by
    rw [tilesetElement, Element.elements_write]
    refine .cons ?_ (.cons ?_ (.cons (hproperties hdepth) (.cons ?_ (.cons ?_ (.cons ?_ .nil)))))
    · exact .of_attributes (by decide +kernel)
    · exact .of_attributes (by decide +kernel)
    · exact .of_attributes (by decide +kernel)
    · exact .of_elements _ (by decide +kernel) (.cons (hproperties hsolid) .nil) (.refl _)
        fun _ _ => rfl
    · exact .of_elements _ (.refl _) (.cons hset .nil) (.refl _) fun _ _ => rfl
  exact .intro rfl (by decide +kernel) heach (by decide +kernel) (by decide +kernel)

end PondElement

theorem pondElement_read : readTileset PondElement.whole = .ok (pond, [shore]) :=
  readTileset_of_reordered (by decide +kernel)
    ⟨by decide +kernel, by decide +kernel, by decide +kernel⟩ PondElement.whole_reordered

end TileAtlas.Document
