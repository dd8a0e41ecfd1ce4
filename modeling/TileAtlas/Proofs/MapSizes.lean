/-
The sizes of a map, from the attributes of its element.

A size is written as a numeral, with or without white space around it
(`Document.SpellsNumber`). Of several attributes with one local name the last one counts, as
long as all of them can be read (`Document.LastSpells`). One attribute sets at most the size of
its name (`Document.readMapAttribute_eq_ok`), so after all attributes each size is the number
in the last one of its name (`Document.foldlM_readMapAttribute`).
-/

import TileAtlas.Proofs.LayerText
import TileAtlas.Proofs.MapLoading

namespace TileAtlas.Document

open Markup (Attribute Element)

/-! ### Written numbers -/

/-- The value is a numeral of the number, with any white space around it. -/
def SpellsNumber (value : String) (n : UInt32) : Prop :=
  ∃ core, Text.IsTrimmed value core ∧ Text.IsNumeral core n.toNat

/-- A value spells a number if, trimmed, it is a numeral the reader takes. -/
theorem spellsNumber_iff {value : String} {n : UInt32} :
    SpellsNumber value n ↔ Text.uint32? (Text.trim value) = some n := by
  rw [Text.uint32?_eq_some_iff]
  constructor
  · rintro ⟨core, htrimmed, hnumeral⟩
    rwa [Text.trim_eq_iff.mpr htrimmed]
  · intro hnumeral
    exact ⟨Text.trim value, Text.trim_eq_iff.mp rfl, hnumeral⟩

/-- The last attribute of a name spells a number. -/
def LastSpells (attributes : List Attribute) (name : String) (n : UInt32) : Prop :=
  ∃ before a after, attributes = before ++ a :: after ∧ a.name = name ∧
    SpellsNumber a.value n ∧ ∀ b ∈ after, b.name ≠ name

def sizeNames : List String :=
  ["width", "height", "tilewidth", "tileheight"]

/-- An attribute that a map can have: a size is a number, and the map neither has no end nor
another shape than a grid of rectangles. -/
structure AllowedAttribute (a : Attribute) : Prop where
  number : a.name ∈ sizeNames → ∃ n, SpellsNumber a.value n
  finite : a.name = "infinite" → ¬ Text.IsTrimmed a.value "1"
  orthogonal : a.name = "orientation" → a.value = "orthogonal"

/-- The attributes of a map element with the given sizes. -/
structure WrittenSizes (attributes : List Attribute) (width height tileWidth tileHeight : UInt32) :
    Prop where
  allowed : ∀ a ∈ attributes, AllowedAttribute a
  width_spelled : LastSpells attributes "width" width
  height_spelled : LastSpells attributes "height" height
  tileWidth_spelled : LastSpells attributes "tilewidth" tileWidth
  tileHeight_spelled : LastSpells attributes "tileheight" tileHeight

/-! ### One attribute -/

/-- The number in an attribute, if it has the name. -/
def numberIn? (name : String) (a : Attribute) : Option UInt32 :=
  if a.name = name then Text.uint32? (Text.trim a.value) else none

/-- The sizes after an attribute: those that it does not set stay. -/
def MapHead.set (h : MapHead) (a : Attribute) : MapHead where
  width := (numberIn? "width" a).or h.width
  height := (numberIn? "height" a).or h.height
  tileWidth := (numberIn? "tilewidth" a).or h.tileWidth
  tileHeight := (numberIn? "tileheight" a).or h.tileHeight

/-- **One attribute** sets the size of its name, and nothing else. -/
theorem readMapAttribute_eq_ok {a : Attribute} (ha : AllowedAttribute a) (h : MapHead) :
    readMapAttribute h a = .ok (h.set a) := by
  obtain ⟨space, name, value⟩ := a
  have hnumber : name ∈ sizeNames → ∃ n, Text.uint32? (Text.trim value) = some n :=
    fun hname => (ha.number hname).imp fun n hn => spellsNumber_iff.mp hn
  unfold readMapAttribute MapHead.set numberIn? readValue
  simp only
  split
  case h_5 =>
    have hfinite : Text.trim value ≠ "1" := mt Text.trim_eq_iff.mp (ha.finite rfl)
    simp [hfinite]
  case h_6 =>
    have horthogonal : value = "orthogonal" := ha.orthogonal rfl
    simp [horthogonal]
  case h_7 => simp_all
  -- The four sizes are read alike.
  all_goals
    obtain ⟨n, hn⟩ := hnumber (by simp [sizeNames])
    simp [hn, Except.map]

/-! ### All attributes -/

/-- The number in the last attribute of a name. -/
def lastNumber? (name : String) : List Attribute → Option UInt32
  | [] => none
  | a :: as => (lastNumber? name as).or (numberIn? name a)

def MapHead.setAll (h : MapHead) (attributes : List Attribute) : MapHead where
  width := (lastNumber? "width" attributes).or h.width
  height := (lastNumber? "height" attributes).or h.height
  tileWidth := (lastNumber? "tilewidth" attributes).or h.tileWidth
  tileHeight := (lastNumber? "tileheight" attributes).or h.tileHeight

/-- **All attributes** together set each size to the number in the last one of its name. -/
theorem foldlM_readMapAttribute {attributes : List Attribute}
    (hallowed : ∀ a ∈ attributes, AllowedAttribute a) (h : MapHead) :
    attributes.foldlM readMapAttribute h = .ok (h.setAll attributes) := by
  induction attributes generalizing h with
  | nil => rfl
  | cons a as ih =>
      obtain ⟨ha, has⟩ := List.forall_mem_cons.mp hallowed
      rw [List.foldlM_cons, readMapAttribute_eq_ok ha]
      refine (ih has (h.set a)).trans ?_
      simp only [MapHead.setAll, MapHead.set, lastNumber?, Option.or_assoc]

theorem lastNumber?_eq_none {name : String} {attributes : List Attribute}
    (h : ∀ a ∈ attributes, a.name ≠ name) : lastNumber? name attributes = none := by
  induction attributes with
  | nil => rfl
  | cons a as ih =>
      obtain ⟨ha, has⟩ := List.forall_mem_cons.mp h
      rw [lastNumber?, ih has, numberIn?, if_neg ha]
      rfl

/-- The last number of a name is the one its last attribute spells. -/
theorem LastSpells.lastNumber?_eq {name : String} {attributes : List Attribute} {n : UInt32}
    (h : LastSpells attributes name n) : lastNumber? name attributes = some n := by
  obtain ⟨before, a, after, rfl, hname, hvalue, hafter⟩ := h
  induction before with
  | nil =>
      rw [List.nil_append, lastNumber?, lastNumber?_eq_none hafter, numberIn?, if_pos hname,
        spellsNumber_iff.mp hvalue]
      rfl
  | cons b before ih =>
      rw [List.cons_append, lastNumber?, ih]
      rfl

/-- **Sizes are read as they are written**, if the number of cells fits in 32 bits. -/
theorem WrittenSizes.readMapSizes_eq {root : Element} {width height tileWidth tileHeight : UInt32}
    (h : WrittenSizes root.attributes width height tileWidth tileHeight)
    (hcells : width.toNat * height.toNat < UInt32.size) :
    readMapSizes root = .ok (TileMap.blank width height tileWidth tileHeight) := by
  rw [readMapSizes, foldlM_readMapAttribute h.allowed, MapHead.setAll,
    h.width_spelled.lastNumber?_eq, h.height_spelled.lastNumber?_eq,
    h.tileWidth_spelled.lastNumber?_eq, h.tileHeight_spelled.lastNumber?_eq]
  exact if_neg (Nat.not_le.mpr hcells)

end TileAtlas.Document
