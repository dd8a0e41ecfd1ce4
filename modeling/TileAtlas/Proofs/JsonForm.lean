/-
The JSON form of tilesets and maps loses nothing.

Each type of the program is carried by its JSON form: one lemma for each record, from its
fields. So the text of a document or of a map, read as JSON and decoded, is the document
or the map again, as long as its floating-point numbers are exact.
-/

import TileAtlas.Proofs.JsonRecords
import TileAtlas.Proofs.ValueTexts

namespace TileAtlas

open Json Wang

/-! ### Properties -/

/-- A floating-point property is exact; nothing is asked of the others. -/
def Property.Exact : Property → Prop
  | .float x => Json.Exact doubleRange double? x
  | _ => True

instance : (p : Property) → Decidable p.Exact
  | .float x => inferInstanceAs (Decidable (Json.Exact doubleRange double? x))
  | .bool _ | .int _ | .string _ => isTrue trivial

/-- A property keeps its variant and its value: a number with a point is never taken for an
integer, and a string is never taken for anything else. -/
theorem Property.carries {p : Property} (h : p.Exact) : Carries Property.ofJson? p.toJson p := by
  cases p with
  | bool b => exact ⟨.bool b, rfl⟩
  | int n =>
      refine ⟨.number (isNumeral_toString_int _), ?_⟩
      have hlo : Int64.minValue.toInt ≤ n.toInt := n.minValue_le_toInt
      have hhi : n.toInt ≤ Int64.maxValue.toInt := n.toInt_le
      simp only [toJson, ofInt, ofJson?, integer?_toString, Option.bind_some, Text.between?, hlo,
        hhi, and_self, if_true, Int64.ofInt_toInt]
  | float x =>
      have hexact : Json.Exact doubleRange double? x := h
      obtain ⟨literal, hmarked, hjson, hread⟩ := hexact.exists_literal
      have hjson : (Property.float x).toJson = .number literal := hjson
      rw [hjson]
      refine ⟨.number (isNumeral_of_marked hmarked), ?_⟩
      simp only [ofJson?, integer?_of_marked hmarked, Option.bind_none, hread, Option.map_some]
  | string s =>
      refine ⟨.string (isBody_escape s), ?_⟩
      simp only [toJson, ofText, ofJson?, unescape?_escape, Option.map_some]

def Properties.Exact (ps : Properties) : Prop :=
  ∀ entry ∈ ps.entries, entry.2.Exact

instance (ps : Properties) : Decidable ps.Exact :=
  inferInstanceAs (Decidable (∀ entry ∈ ps.entries, entry.2.Exact))

/-- The form of the properties carries them, names in order. -/
theorem Properties.carries {ps : Properties} (h : ps.Exact) :
    Carries Properties.ofJson? (Properties.toJson ps) ps := by
  obtain ⟨hformed, hread⟩ := carries_table unescape? escape isBody_escape unescape?_escape
    fun entry hentry => Property.carries (h entry hentry)
  exact ⟨hformed, hread⟩

/-! ### Tilesets

A record is the object of its fields. It is carried because each of them is, under a name
of its own. -/

def TileOffset.fields (o : TileOffset) : List Field :=
  [⟨false, "x", ofInt o.x.toInt⟩, ⟨false, "y", ofInt o.y.toInt⟩]

theorem TileOffset.carries (o : TileOffset) : Carries TileOffset.ofJson? o.toJson o := by
  have hx := carries_int32 o.x
  have hy := carries_int32 o.y
  have hrecord : IsRecord ["x", "y"] o.fields := ⟨rfl, by decide, by decide⟩
  have hjson : o.toJson = .object (fieldMembers o.fields) := rfl
  rw [hjson]
  refine ⟨hrecord.wellFormed (by simp [fields, hx.wellFormed, hy.wellFormed]), ?_⟩
  simp only [ofJson?, hrecord.record?_eq, hrecord.field?_eq "x" hx (by simp [fields]),
    hrecord.field?_eq "y" hy (by simp [fields]), Option.bind_eq_bind, Option.bind_some]
  rfl

def SheetImage.fields (i : SheetImage) : List Field :=
  [⟨false, "source", ofText i.source⟩, ⟨false, "width", uint32Json i.width⟩,
    ⟨false, "height", uint32Json i.height⟩, ⟨i.trans.isNone, "trans", ofOption ofText i.trans⟩]

theorem SheetImage.carries (i : SheetImage) : Carries SheetImage.ofJson? i.toJson i := by
  have hsource := carries_text i.source
  have hwidth := carries_uint32 i.width
  have hheight := carries_uint32 i.height
  have htrans := Carries.nullable (o := i.trans) rfl fun c _ => carries_text c
  have hrecord : IsRecord ["source", "width", "height", "trans"] i.fields :=
    ⟨rfl, by decide, by decide⟩
  have hjson : i.toJson = .object (fieldMembers i.fields) := by
    simp [toJson, fields, fieldMembers, member, memberUnless]
  rw [hjson]
  refine ⟨hrecord.wellFormed (by simp [fields, hsource.wellFormed, hwidth.wellFormed,
    hheight.wellFormed, htrans.wellFormed]), ?_⟩
  simp only [ofJson?, hrecord.record?_eq, hrecord.field?_eq "source" hsource (by simp [fields]),
    hrecord.field?_eq "width" hwidth (by simp [fields]),
    hrecord.field?_eq "height" hheight (by simp [fields]),
    hrecord.fieldOr_eq i.trans.isNone "trans" htrans Option.isNone_iff_eq_none.mp
      (by simp [fields]),
    Option.bind_eq_bind, Option.bind_some]
  rfl

def TileData.fields (d : TileData) : List Field :=
  [⟨d.className.isNone, "class", ofOption ofText d.className⟩,
    ⟨d.properties.isEmpty, "properties", Properties.toJson d.properties⟩]

/-- The form of a tile's data carries it, the parts left out when empty included. -/
theorem TileData.carries {d : TileData} (h : d.properties.Exact) :
    Carries TileData.ofJson? d.toJson d := by
  have hclass := Carries.nullable (o := d.className) rfl fun c _ => carries_text c
  have hproperties := Properties.carries h
  have hrecord : IsRecord ["class", "properties"] d.fields := ⟨rfl, by decide, by decide⟩
  have hjson : d.toJson = .object (fieldMembers d.fields) := by
    simp [toJson, fields, fieldMembers]
  rw [hjson]
  refine ⟨hrecord.wellFormed (by simp [fields, hclass.wellFormed, hproperties.wellFormed]), ?_⟩
  simp only [ofJson?, hrecord.record?_eq,
    hrecord.fieldOr_eq d.className.isNone "class" hclass Option.isNone_iff_eq_none.mp
      (by simp [fields]),
    hrecord.fieldOr_eq d.properties.isEmpty "properties" hproperties Table.eq_empty_of_isEmpty
      (by simp [fields]),
    Option.bind_eq_bind, Option.bind_some]
  rfl

/-- The key of a tile is its id in decimal. -/
theorem tileKey?_toString (id : UInt32) : tileKey? (toString id.toNat) = some id := by
  have hlt : id.toNat < UInt32.size := id.toNat_lt
  unfold tileKey?
  split
  · rename_i c cs heq
    rw [Text.toList_toString_nat] at heq
    by_cases hzero : id.toNat = 0
    · rw [hzero] at heq
      cases heq
    · exact absurd (congrArg List.head? heq) (Text.head?_toDigits_ne hzero)
  · simp only [natural?_toString, Option.bind_some, Text.below?, if_pos hlt, Option.map_some,
      UInt32.ofNat_toNat]

def tilesToJson (tiles : Table UInt32 TileData) : Json :=
  .object (tiles.entries.map fun e => (toString e.1.toNat, e.2.toJson))

/-- The object of the tiles carries the table, key by key. -/
theorem carries_tiles {tiles : Table UInt32 TileData}
    (h : ∀ entry ∈ tiles.entries, entry.2.properties.Exact) :
    Carries tilesOfJson? (tilesToJson tiles) tiles := by
  obtain ⟨hformed, hread⟩ := carries_table tileKey? (fun id => toString id.toNat)
    (fun id => isBody_toString_nat id.toNat) tileKey?_toString
    fun entry hentry => TileData.carries (h entry hentry)
  exact ⟨hformed, hread⟩

/-- Every floating-point number of a tileset is exact. -/
structure Tileset.Exact (t : Tileset) : Prop where
  properties : t.properties.Exact
  tiles : ∀ entry ∈ t.tiles.entries, entry.2.properties.Exact

def Tileset.fields (t : Tileset) : List Field :=
  [⟨false, "name", ofText t.name⟩, ⟨t.className == "", "class", ofText t.className⟩,
    ⟨false, "tile_width", uint32Json t.tileWidth⟩, ⟨false, "tile_height", uint32Json t.tileHeight⟩,
    ⟨false, "tile_count", uint32Json t.tileCount⟩, ⟨false, "columns", uint32Json t.columns⟩,
    ⟨false, "spacing", uint32Json t.spacing⟩, ⟨false, "margin", uint32Json t.margin⟩,
    ⟨t.tileOffset.isNone, "tile_offset", ofOption TileOffset.toJson t.tileOffset⟩,
    ⟨t.image.isNone, "image", ofOption SheetImage.toJson t.image⟩,
    ⟨t.properties.isEmpty, "properties", Properties.toJson t.properties⟩,
    ⟨t.tiles.isEmpty, "tiles", tilesToJson t.tiles⟩]

/-- The form of a tileset carries it, provided its floats are exact. -/
theorem Tileset.carries {t : Tileset} (h : t.Exact) : Carries Tileset.ofJson? t.toJson t := by
  have hname := carries_text t.name
  have hclass := carries_text t.className
  have htileWidth := carries_uint32 t.tileWidth
  have htileHeight := carries_uint32 t.tileHeight
  have htileCount := carries_uint32 t.tileCount
  have hcolumns := carries_uint32 t.columns
  have hspacing := carries_uint32 t.spacing
  have hmargin := carries_uint32 t.margin
  have hoffset := Carries.nullable (o := t.tileOffset) rfl fun o _ => o.carries
  have himage := Carries.nullable (o := t.image) rfl fun i _ => i.carries
  have hproperties := Properties.carries h.properties
  have htiles := carries_tiles h.tiles
  have hrecord : IsRecord ["name", "class", "tile_width", "tile_height", "tile_count", "columns",
      "spacing", "margin", "tile_offset", "image", "properties", "tiles"] t.fields :=
    ⟨rfl, by decide, by decide⟩
  have hjson : t.toJson = .object (fieldMembers t.fields) := by
    simp [toJson, fields, fieldMembers, member, memberUnless, tilesToJson]
  rw [hjson]
  refine ⟨hrecord.wellFormed (by simp [fields, hname.wellFormed, hclass.wellFormed,
    htileWidth.wellFormed, htileHeight.wellFormed, htileCount.wellFormed, hcolumns.wellFormed,
    hspacing.wellFormed, hmargin.wellFormed, hoffset.wellFormed, himage.wellFormed,
    hproperties.wellFormed, htiles.wellFormed]), ?_⟩
  simp only [ofJson?, hrecord.record?_eq, hrecord.field?_eq "name" hname (by simp [fields]),
    hrecord.fieldOr_eq (t.className == "") "class" hclass beq_iff_eq.mp (by simp [fields]),
    hrecord.field?_eq "tile_width" htileWidth (by simp [fields]),
    hrecord.field?_eq "tile_height" htileHeight (by simp [fields]),
    hrecord.field?_eq "tile_count" htileCount (by simp [fields]),
    hrecord.field?_eq "columns" hcolumns (by simp [fields]),
    hrecord.fieldOr_eq_of_written "spacing" hspacing (by simp [fields]),
    hrecord.fieldOr_eq_of_written "margin" hmargin (by simp [fields]),
    hrecord.fieldOr_eq t.tileOffset.isNone "tile_offset" hoffset Option.isNone_iff_eq_none.mp
      (by simp [fields]),
    hrecord.fieldOr_eq t.image.isNone "image" himage Option.isNone_iff_eq_none.mp
      (by simp [fields]),
    hrecord.fieldOr_eq t.properties.isEmpty "properties" hproperties Table.eq_empty_of_isEmpty
      (by simp [fields]),
    hrecord.fieldOr_eq t.tiles.isEmpty "tiles" htiles Table.eq_empty_of_isEmpty
      (by simp [fields]),
    Option.bind_eq_bind, Option.bind_some]
  rfl

/-! ### Wang sets -/

def Wang.Rgba.fields (c : Rgba) : List Field :=
  [⟨false, "r", uint8Json c.r⟩, ⟨false, "g", uint8Json c.g⟩, ⟨false, "b", uint8Json c.b⟩,
    ⟨false, "a", uint8Json c.a⟩]

theorem Wang.Rgba.carries (c : Rgba) : Carries Rgba.ofJson? c.toJson c := by
  have hr := carries_uint8 c.r
  have hg := carries_uint8 c.g
  have hb := carries_uint8 c.b
  have ha := carries_uint8 c.a
  have hrecord : IsRecord ["r", "g", "b", "a"] c.fields := ⟨rfl, by decide, by decide⟩
  have hjson : c.toJson = .object (fieldMembers c.fields) := rfl
  rw [hjson]
  refine ⟨hrecord.wellFormed (by simp [fields, hr.wellFormed, hg.wellFormed, hb.wellFormed,
    ha.wellFormed]), ?_⟩
  simp only [ofJson?, hrecord.record?_eq, hrecord.field?_eq "r" hr (by simp [fields]),
    hrecord.field?_eq "g" hg (by simp [fields]), hrecord.field?_eq "b" hb (by simp [fields]),
    hrecord.field?_eq "a" ha (by simp [fields]), Option.bind_eq_bind, Option.bind_some]
  rfl

/-- The weight of a color is exact. -/
def Wang.Color.Exact (c : Color) : Prop :=
  Json.Exact singleRange single? c.probability

instance (c : Color) : Decidable c.Exact :=
  inferInstanceAs (Decidable (Json.Exact singleRange single? c.probability))

/-- A weight is carried as long as the literal printed for it reads back. -/
theorem carries_weight {x : Single} (h : Json.Exact singleRange single? x) :
    Carries probabilityOfJson? (ofBinary singleRange x) x := by
  obtain ⟨literal, hmarked, hjson, hread⟩ := h.exists_literal
  rw [hjson]
  exact ⟨.number (isNumeral_of_marked hmarked), hread⟩

def Wang.Color.fields (c : Color) : List Field :=
  [⟨false, "name", ofText c.name⟩, ⟨false, "color", c.color.toJson⟩,
    ⟨false, "tile", ofOption uint32Json c.tile⟩,
    ⟨false, "probability", ofBinary singleRange c.probability⟩]

theorem Wang.Color.carries {c : Color} (h : c.Exact) : Carries Color.ofJson? c.toJson c := by
  have hname := carries_text c.name
  have hcolor := c.color.carries
  have htile := Carries.nullable (o := c.tile) rfl fun n _ => carries_uint32 n
  have hweight := carries_weight h
  have hrecord : IsRecord ["name", "color", "tile", "probability"] c.fields :=
    ⟨rfl, by decide, by decide⟩
  have hjson : c.toJson = .object (fieldMembers c.fields) := rfl
  rw [hjson]
  refine ⟨hrecord.wellFormed (by simp [fields, hname.wellFormed, hcolor.wellFormed,
    htile.wellFormed, hweight.wellFormed]), ?_⟩
  simp only [ofJson?, hrecord.record?_eq, hrecord.field?_eq "name" hname (by simp [fields]),
    hrecord.field?_eq "color" hcolor (by simp [fields]),
    hrecord.fieldOr_eq_of_written "tile" htile (by simp [fields]),
    hrecord.field?_eq "probability" hweight (by simp [fields]), Option.bind_eq_bind,
    Option.bind_some]
  rfl

/-- A Wang ID is carried as the list of its eight entries. -/
theorem Wang.Id.carries (w : Id) : Carries Id.ofJson? (.array (w.toList.map uint8Json)) w := by
  have hlist := Carries.list fun c (_ : c ∈ w.toList) => carries_uint8 c
  refine ⟨hlist.wellFormed, ?_⟩
  obtain ⟨c₀, c₁, c₂, c₃, c₄, c₅, c₆, c₇, hw⟩ := w.exists_eq_ofColors
  have hcolors : w.toList = [c₀, c₁, c₂, c₃, c₄, c₅, c₆, c₇] := by
    rw [hw]
    rfl
  simp only [ofJson?, hlist.read, Option.bind_eq_bind, Option.bind_some]
  rw [hcolors, hw]
  rfl

def Wang.Tile.fields (t : Tile) : List Field :=
  [⟨false, "tile_id", uint32Json t.tileId⟩,
    ⟨false, "wang_id", .array (t.wangId.toList.map uint8Json)⟩]

theorem Wang.Tile.carries (t : Tile) : Carries Tile.ofJson? t.toJson t := by
  have hid := carries_uint32 t.tileId
  have hwang := t.wangId.carries
  have hrecord : IsRecord ["tile_id", "wang_id"] t.fields := ⟨rfl, by decide, by decide⟩
  have hjson : t.toJson = .object (fieldMembers t.fields) := rfl
  rw [hjson]
  refine ⟨hrecord.wellFormed (by simp [fields, hid.wellFormed, hwang.wellFormed]), ?_⟩
  simp only [ofJson?, hrecord.record?_eq, hrecord.field?_eq "tile_id" hid (by simp [fields]),
    hrecord.field?_eq "wang_id" hwang (by simp [fields]), Option.bind_eq_bind, Option.bind_some]
  rfl

theorem Wang.SetType.carries (t : SetType) : Carries SetType.ofJson? (ofText t.variant) t := by
  refine ⟨.string (isBody_escape _), ?_⟩
  simp only [ofJson?, variant?, ofText, unescape?_escape]
  cases t <;> rfl

def Wang.WangSet.fields (s : WangSet) : List Field :=
  [⟨false, "name", ofText s.name⟩, ⟨false, "set_type", ofText s.setType.variant⟩,
    ⟨false, "tile", ofOption uint32Json s.tile⟩,
    ⟨false, "colors", .array (s.colors.map Color.toJson)⟩,
    ⟨false, "tiles", .array (s.tiles.map Tile.toJson)⟩]

/-- The form of a Wang set carries it, provided its colors are exact. -/
theorem Wang.WangSet.carries {s : WangSet} (h : ∀ c ∈ s.colors, c.Exact) :
    Carries WangSet.ofJson? s.toJson s := by
  have hname := carries_text s.name
  have htype := s.setType.carries
  have htile := Carries.nullable (o := s.tile) rfl fun n _ => carries_uint32 n
  have hcolors := Carries.list fun c hc => Color.carries (h c hc)
  have htiles := Carries.list fun t (_ : t ∈ s.tiles) => t.carries
  have hrecord : IsRecord ["name", "set_type", "tile", "colors", "tiles"] s.fields :=
    ⟨rfl, by decide, by decide⟩
  have hjson : s.toJson = .object (fieldMembers s.fields) := rfl
  rw [hjson]
  refine ⟨hrecord.wellFormed (by simp [fields, hname.wellFormed, htype.wellFormed,
    htile.wellFormed, hcolors.wellFormed, htiles.wellFormed]), ?_⟩
  simp only [ofJson?, hrecord.record?_eq, hrecord.field?_eq "name" hname (by simp [fields]),
    hrecord.field?_eq "set_type" htype (by simp [fields]),
    hrecord.fieldOr_eq_of_written "tile" htile (by simp [fields]),
    hrecord.field?_eq "colors" hcolors (by simp [fields]),
    hrecord.field?_eq "tiles" htiles (by simp [fields]), Option.bind_eq_bind, Option.bind_some]
  rfl

/-! ### Documents -/

theorem carries_path (p : Path) : Carries pathOfJson? (ofText p.text) p := by
  have htext := carries_text p.text
  refine ⟨htext.wellFormed, ?_⟩
  rw [pathOfJson?, htext.read]
  rfl

/-- Every floating-point number of a document is exact. -/
structure TilesetDocument.Exact (d : TilesetDocument) : Prop where
  tileset : d.tileset.Exact
  weights : ∀ s ∈ d.wangSets, ∀ c ∈ s.colors, c.Exact

def TilesetDocument.fields (d : TilesetDocument) : List Field :=
  [⟨d.path.isNone, "path", ofOption (fun p => ofText p.text) d.path⟩,
    ⟨false, "tileset", d.tileset.toJson⟩,
    ⟨false, "wang_sets", .array (d.wangSets.map WangSet.toJson)⟩]

/-- The form of a document carries it: path, tileset and Wang sets. -/
theorem TilesetDocument.carries {d : TilesetDocument} (h : d.Exact) :
    Carries TilesetDocument.ofJson? d.toJson d := by
  have hpath := Carries.nullable (o := d.path) rfl fun p _ => carries_path p
  have htileset := Tileset.carries h.tileset
  have hsets := Carries.list fun s hs => WangSet.carries (h.weights s hs)
  have hrecord : IsRecord ["path", "tileset", "wang_sets"] d.fields := ⟨rfl, by decide, by decide⟩
  have hjson : d.toJson = .object (fieldMembers d.fields) := by
    simp [toJson, fields, fieldMembers, member, memberUnless]
  rw [hjson]
  refine ⟨hrecord.wellFormed (by simp [fields, hpath.wellFormed, htileset.wellFormed,
    hsets.wellFormed]), ?_⟩
  simp only [ofJson?, hrecord.record?_eq,
    hrecord.fieldOr_eq d.path.isNone "path" hpath Option.isNone_iff_eq_none.mp (by simp [fields]),
    hrecord.field?_eq "tileset" htileset (by simp [fields]),
    hrecord.fieldOr_eq_of_written "wang_sets" hsets (by simp [fields]),
    Option.bind_eq_bind, Option.bind_some]
  rfl

/-! ### Maps -/

theorem Role.carries (r : Role) : Carries Role.ofJson? (ofText r.variant) r := by
  refine ⟨.string (isBody_escape _), ?_⟩
  simp only [ofJson?, variant?, ofText, unescape?_escape]
  cases r <;> rfl

def Layer.fields (l : Layer) : List Field :=
  [⟨false, "name", ofText l.name⟩, ⟨false, "visible", .bool l.visible⟩,
    ⟨false, "role", ofText l.role.variant⟩, ⟨false, "gids", .array (l.gids.map uint32Json)⟩]

/-- The form of a layer carries it: no float occurs in it. -/
theorem Layer.carries (l : Layer) : Carries Layer.ofJson? l.toJson l := by
  have hname := carries_text l.name
  have hvisible := carries_bool l.visible
  have hrole := l.role.carries
  have hgids := Carries.list fun g (_ : g ∈ l.gids) => carries_uint32 g
  have hrecord : IsRecord ["name", "visible", "role", "gids"] l.fields :=
    ⟨rfl, by decide, by decide⟩
  have hjson : l.toJson = .object (fieldMembers l.fields) := rfl
  rw [hjson]
  refine ⟨hrecord.wellFormed (by simp [fields, hname.wellFormed, hvisible.wellFormed,
    hrole.wellFormed, hgids.wellFormed]), ?_⟩
  simp only [ofJson?, hrecord.record?_eq, hrecord.field?_eq "name" hname (by simp [fields]),
    hrecord.field?_eq "visible" hvisible (by simp [fields]),
    hrecord.field?_eq "role" hrole (by simp [fields]),
    hrecord.field?_eq "gids" hgids (by simp [fields]), Option.bind_eq_bind, Option.bind_some]
  rfl

/-- Every floating-point number of an embedded tileset is exact. -/
def TilesetSource.Exact : TilesetSource → Prop
  | .external _ => True
  | .embedded t => t.Exact

/-- The two kinds of source are told apart by the name of the member. -/
theorem TilesetSource.carries {s : TilesetSource} (h : s.Exact) :
    Carries TilesetSource.ofJson? s.toJson s := by
  have hexternal : escape "External" = "External" := by decide
  have hembedded : escape "Embedded" = "Embedded" := by decide
  cases s with
  | external p =>
      have hpath := carries_path p
      refine ⟨.object (by simpa using isBody_of_plain hexternal)
        (by simpa using hpath.wellFormed), ?_⟩
      simp [toJson, ofJson?, unescape?_of_plain hexternal, hpath.read]
  | embedded t =>
      have htileset := Tileset.carries (t := t) h
      refine ⟨.object (by simpa using isBody_of_plain hembedded)
        (by simpa using htileset.wellFormed), ?_⟩
      simp [toJson, ofJson?, unescape?_of_plain hembedded, htileset.read]

def TilesetRef.fields (r : TilesetRef) : List Field :=
  [⟨false, "first_gid", uint32Json r.firstGid⟩, ⟨false, "source", r.source.toJson⟩]

theorem TilesetRef.carries {r : TilesetRef} (h : r.source.Exact) :
    Carries TilesetRef.ofJson? r.toJson r := by
  have hgid := carries_uint32 r.firstGid
  have hsource := TilesetSource.carries h
  have hrecord : IsRecord ["first_gid", "source"] r.fields := ⟨rfl, by decide, by decide⟩
  have hjson : r.toJson = .object (fieldMembers r.fields) := rfl
  rw [hjson]
  refine ⟨hrecord.wellFormed (by simp [fields, hgid.wellFormed, hsource.wellFormed]), ?_⟩
  simp only [ofJson?, hrecord.record?_eq, hrecord.field?_eq "first_gid" hgid (by simp [fields]),
    hrecord.field?_eq "source" hsource (by simp [fields]), Option.bind_eq_bind, Option.bind_some]
  rfl

/-- Every floating-point number of a map is exact. -/
def TileMap.Exact (m : TileMap) : Prop :=
  ∀ r ∈ m.tilesets, r.source.Exact

def TileMap.fields (m : TileMap) : List Field :=
  [⟨false, "width", uint32Json m.width⟩, ⟨false, "height", uint32Json m.height⟩,
    ⟨false, "tile_width", uint32Json m.tileWidth⟩, ⟨false, "tile_height", uint32Json m.tileHeight⟩,
    ⟨false, "tilesets", .array (m.tilesets.map TilesetRef.toJson)⟩,
    ⟨false, "layers", .array (m.layers.map Layer.toJson)⟩]

/-- The form of a map carries it, provided its embedded tilesets are exact. -/
theorem TileMap.carries {m : TileMap} (h : m.Exact) : Carries TileMap.ofJson? m.toJson m := by
  have hwidth := carries_uint32 m.width
  have hheight := carries_uint32 m.height
  have htileWidth := carries_uint32 m.tileWidth
  have htileHeight := carries_uint32 m.tileHeight
  have htilesets := Carries.list fun r hr => TilesetRef.carries (h r hr)
  have hlayers := Carries.list fun l (_ : l ∈ m.layers) => l.carries
  have hrecord : IsRecord ["width", "height", "tile_width", "tile_height", "tilesets", "layers"]
      m.fields := ⟨rfl, by decide, by decide⟩
  have hjson : m.toJson = .object (fieldMembers m.fields) := rfl
  rw [hjson]
  refine ⟨hrecord.wellFormed (by simp [fields, hwidth.wellFormed, hheight.wellFormed,
    htileWidth.wellFormed, htileHeight.wellFormed, htilesets.wellFormed, hlayers.wellFormed]), ?_⟩
  simp only [ofJson?, hrecord.record?_eq, hrecord.field?_eq "width" hwidth (by simp [fields]),
    hrecord.field?_eq "height" hheight (by simp [fields]),
    hrecord.field?_eq "tile_width" htileWidth (by simp [fields]),
    hrecord.field?_eq "tile_height" htileHeight (by simp [fields]),
    hrecord.field?_eq "tilesets" htilesets (by simp [fields]),
    hrecord.field?_eq "layers" hlayers (by simp [fields]), Option.bind_eq_bind, Option.bind_some]
  rfl

/-! ### Texts -/

/-- What a JSON value carries is read from both of its texts. -/
theorem Json.Carries.parse? {α : Type} {read? : Json → Option α} {j : Json} {x : α}
    (h : Carries read? j x) :
    (Json.parse? j.compact).bind read? = some x ∧ (Json.parse? j.pretty).bind read? = some x := by
  rw [parse?_compact h.wellFormed, parse?_pretty h.wellFormed, Option.bind_some, h.read]
  exact ⟨rfl, rfl⟩

end TileAtlas
