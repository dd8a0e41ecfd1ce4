/-
The layer elements of a map and the layers read from them.

Groups only wrap layers: what a map is read from is the list of its layer elements in
document order, wherever they are nested, each with whether all groups around it are
shown (`layerElementsIn`, `readLayersIn_eq_mapM`). A layer in turn is its name, its
visibility and the numbers of the fields of its data, cut or filled up to the size of the
map (`readLayer_eq_ok_iff`, `readLayerData_eq_ok_iff`).
-/

import TileAtlas.Proofs.LayerText
import TileAtlas.Proofs.MapLoading

namespace TileAtlas

open Fallible Markup

/-- The text that a list of nodes starts with; empty when something else comes first. -/
def Markup.leadingText : List Node → String
  | .text s :: _ => s
  | _ => ""

def Markup.Element.leadingText (e : Element) : String :=
  e.text?.getD ""

theorem Markup.Element.leadingText_eq (e : Element) :
    e.leadingText = Markup.leadingText e.children := by
  obtain ⟨name, attributes, children⟩ := e
  cases children with
  | nil => rfl
  | cons n ns => cases n <;> rfl

namespace Document

/-! ### Layers inside groups -/

mutual

/-- The layer elements of a node: a layer itself, or those of a group. -/
def layerElements (visible : Bool) : Node → List (Bool × Element)
  | .element name attributes children =>
    let e : Element := ⟨name, attributes, children⟩
    if name = "group" then layerElementsIn (visible && isShown e) children
    else if name = "layer" then [(visible, e)]
    else []
  | _ => []

def layerElementsIn (visible : Bool) : List Node → List (Bool × Element)
  | [] => []
  | n :: ns => layerElements visible n ++ layerElementsIn visible ns

end

/-- Read a layer element that stands inside groups. -/
def readLayerElement (width height : UInt32) (layer : Bool × Element) : Read Layer :=
  readLayer width height layer.1 layer.2

mutual

/-- The reader goes over the layers below a node in the order of their elements. -/
theorem readLayers_eq_mapM (width height : UInt32) (visible : Bool) :
    ∀ n : Node, readLayers width height visible n =
      (layerElements visible n).mapM (readLayerElement width height)
  | .element name attributes children => by
      rw [readLayers, layerElements]
      by_cases hgroup : name = "group"
      · simp only [if_pos hgroup]
        exact readLayersIn_eq_mapM width height _ children
      · by_cases hlayer : name = "layer"
        · simp only [if_neg hgroup, if_pos hlayer, List.mapM_cons, List.mapM_nil, readLayerElement]
          cases readLayer width height visible ⟨name, attributes, children⟩ with
          | error cause => rfl
          | ok layer => rfl
        · simp only [if_neg hgroup, if_neg hlayer]
          rfl
  | .text _ => rfl
  | .comment _ => rfl
  | .instruction _ => rfl

/-- **Layers are read in document order**, whatever groups are around them. -/
theorem readLayersIn_eq_mapM (width height : UInt32) (visible : Bool) :
    ∀ ns : List Node, readLayersIn width height visible ns =
      (layerElementsIn visible ns).mapM (readLayerElement width height)
  | [] => rfl
  | n :: ns => by
      rw [readLayersIn, layerElementsIn, List.mapM_append,
        readLayers_eq_mapM width height visible n, readLayersIn_eq_mapM width height visible ns]

end

/-! ### One layer -/

def layerName (layer : Element) : String :=
  (layer.attribute? "name").getD ""

/-- Whether the data of a layer is neither compressed nor in an encoding that is not read. -/
def IsPlainData (data : Element) : Prop :=
  data.attribute? "compression" = none ∧
    (data.attribute? "encoding" = none ∨ data.attribute? "encoding" = some "csv")

/-- The gids of a layer are the numbers its fields spell, one by one. -/
theorem mapM_readGid_eq_ok_iff {layer : String} {fields : List String} {values : List UInt32} :
    fields.mapM (readGid layer) = .ok values ↔
      List.Forall₂ (fun field value => Text.uint32? field = some value) fields values := by
  have hfield : ∀ (field : String) (value : UInt32),
      readGid layer field = .ok value ↔ Text.uint32? field = some value := by
    intro field value
    unfold readGid
    cases Text.uint32? field with
    | none => simp
    | some n => simp
  simp only [mapM_eq_ok_iff, hfield]

/-- Data is read if it is plain and every field spells a number. -/
theorem readLayerData_eq_ok_iff {layer : String} {data : Element} {values : List UInt32} :
    readLayerData layer data = .ok values ↔
      IsPlainData data ∧ FieldValues data.leadingText values := by
  have hgids : readLayerData.gids layer data = .ok values ↔
      FieldValues data.leadingText values := mapM_readGid_eq_ok_iff
  unfold readLayerData IsPlainData
  cases data.attribute? "compression" with
  | some compression => simp
  | none =>
      cases data.attribute? "encoding" with
      | none => simp [hgids]
      | some encoding =>
          by_cases hcsv : encoding = "csv"
          · simp [hcsv, hgids]
          · simp [hcsv]

/-- A layer is read if its data is, and takes name, gids and visibility from its element. -/
theorem readLayer_eq_ok_iff {width height : UInt32} {visible : Bool} {e : Element} {l : Layer} :
    readLayer width height visible e = .ok l ↔
      ∃ data values, e.child? "data" = some data ∧ IsPlainData data ∧
        FieldValues data.leadingText values ∧
        l = { Layer.ofGids (layerName e) width height values with
          visible := visible && isShown e } := by
  unfold readLayer
  cases e.child? "data" with
  | none => simp [throw, throwThe, MonadExceptOf.throw]
  | some data =>
      simp only [bind_eq_ok_iff, readLayerData_eq_ok_iff]
      constructor
      · rintro ⟨values, ⟨hplain, hvalues⟩, hl⟩
        cases hl
        exact ⟨data, values, rfl, hplain, hvalues, rfl⟩
      · rintro ⟨_, values, hdata, hplain, hvalues, rfl⟩
        cases hdata
        exact ⟨values, ⟨hplain, hvalues⟩, rfl⟩

/-! ### Whole maps -/

theorem parseElement_eq_ok_iff {text : String} {root : Element} :
    parseElement text = .ok root ↔ Element.parse? text = some root := by
  unfold parseElement
  cases Element.parse? text with
  | none => simp
  | some e => simp

/-- The root element of a text, read from its characters. -/
theorem parse?_of_toList (text : String) {cs : List Char} (h : text.toList = cs) :
    Element.parse? text =
      ((afterDeclaration? ((after? "\uFEFF" cs).getD cs)).bind fun rest =>
        tokens? rest.length rest).bind Element.ofTokens? := by
  subst h
  rfl

end Document

open Document

/-- **What a parsed map is made of**: its sizes, the references of its tileset elements,
and the layers of its layer elements. -/
theorem parseMap_eq_ok_iff {text : String} {dir : Path} {m : TileMap} :
    parseMap text dir = .ok m ↔
      ∃ root sizes refs layers, Element.parse? text = some root ∧ root.name = "map" ∧
        readMapSizes root = .ok sizes ∧
        (root.elementsNamed "tileset").mapM (readTilesetRef dir) = .ok refs ∧
        List.Forall₂ (fun e l => readLayerElement sizes.width sizes.height e = .ok l)
          (layerElementsIn true root.children) layers ∧
        m = { sizes with tilesets := refs.map (·.1), layers := layers } := by
  unfold parseMap parseMapDocument
  rw [map_eq_ok_iff]
  constructor
  · rintro ⟨doc, hdoc, rfl⟩
    obtain ⟨root, hroot, hread⟩ := bind_eq_ok_iff.mp hdoc
    obtain ⟨hname, sizes, refs, layers, hsizes, hrefs, hlayers, rfl⟩ :=
      readMapDocument_eq_ok_iff.mp hread
    rw [readLayersIn_eq_mapM, mapM_eq_ok_iff] at hlayers
    exact ⟨root, sizes, refs, layers, parseElement_eq_ok_iff.mp hroot, hname, hsizes, hrefs,
      hlayers, rfl⟩
  · rintro ⟨root, sizes, refs, layers, hroot, hname, hsizes, hrefs, hlayers, rfl⟩
    rw [← mapM_eq_ok_iff, ← readLayersIn_eq_mapM] at hlayers
    exact ⟨_, bind_eq_ok_iff.mpr ⟨root, parseElement_eq_ok_iff.mpr hroot,
      readMapDocument_eq_ok_iff.mpr ⟨hname, sizes, refs, layers, hsizes, hrefs, hlayers, rfl⟩⟩, rfl⟩

end TileAtlas
