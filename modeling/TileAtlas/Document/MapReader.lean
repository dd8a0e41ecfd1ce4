/-
Reading maps from their elements.

Groups of layers are opened in document order: a layer counts wherever it is nested, as
long as only groups are around it, and a hidden group hides everything in it.
-/

import TileAtlas.Document.TilesetReader

namespace TileAtlas.Document

open Markup (Element Node Attribute)
open Wang (WangSet)

/-- A map with the Wang sets of its embedded tilesets: one list for each tileset
reference, empty for a reference to a file. -/
structure MapDocument where
  map : TileMap
  wangSets : List (List WangSet)
deriving DecidableEq

/-- The sizes of a map until all of them are read. -/
structure MapHead where
  width : Option UInt32
  height : Option UInt32
  tileWidth : Option UInt32
  tileHeight : Option UInt32
deriving DecidableEq

def MapHead.empty : MapHead := ⟨none, none, none, none⟩

def readMapAttribute (h : MapHead) (a : Attribute) : Read MapHead :=
  let number := readValue Text.uint32? "map" a.name a.value
  match a.name with
  | "width" => number.map fun n => { h with width := some n }
  | "height" => number.map fun n => { h with height := some n }
  | "tilewidth" => number.map fun n => { h with tileWidth := some n }
  | "tileheight" => number.map fun n => { h with tileHeight := some n }
  | "infinite" =>
    if Text.trim a.value = "1" then .error (.unsupportedMap .infinite) else .ok h
  | "orientation" =>
    if a.value = "orthogonal" then .ok h else .error (.unsupportedMap (.orientation a.value))
  | _ => .ok h

/-- A map of the sizes that were read. The number of cells has to fit in 32 bits. -/
def MapHead.toMap (h : MapHead) : Read TileMap := do
  let width ← require h.width "map" "width"
  let height ← require h.height "map" "height"
  if UInt32.size ≤ width.toNat * height.toNat then
    throw (.unsupportedMap (.tooLarge width height))
  let tileWidth ← require h.tileWidth "map" "tilewidth"
  let tileHeight ← require h.tileHeight "map" "tileheight"
  return TileMap.blank width height tileWidth tileHeight

def readGid (layer field : String) : Read UInt32 :=
  match Text.uint32? field with
  | some n => .ok n
  | none => .error (.invalidLayerData layer field)

/-- Read the global ids of a layer: numbers between commas, empty fields left out. Only
the text that the element starts with is read, and only if it is not compressed and
not encoded otherwise. -/
def readLayerData (layer : String) (data : Element) : Read (List UInt32) :=
  match data.attribute? "compression", data.attribute? "encoding" with
  | some compression, _ => .error (.unsupportedEncoding layer compression)
  | none, some encoding =>
    if encoding = "csv" then gids else .error (.unsupportedEncoding layer encoding)
  | none, none => gids
where
  gids :=
    (((Text.fields ',' (data.text?.getD "")).map Text.trim).filter (· != "")).mapM (readGid layer)

/-- Whether an element is shown on its own account. -/
def isShown (e : Element) : Bool :=
  match e.attribute? "visible" with
  | some v => Text.trim v != "0"
  | none => true

def readLayer (width height : UInt32) (visible : Bool) (e : Element) : Read Layer := do
  let name := (e.attribute? "name").getD ""
  match e.child? "data" with
  | none => throw (.missingElement "data")
  | some data =>
    let gids ← readLayerData name data
    return { Layer.ofGids name width height gids with visible := visible && isShown e }

mutual

/-- The layers of a node: a layer itself, or those of a group in document order. -/
def readLayers (width height : UInt32) (visible : Bool) : Node → Read (List Layer)
  | .element name attributes children =>
    let e : Element := ⟨name, attributes, children⟩
    if name = "group" then readLayersIn width height (visible && isShown e) children
    else if name = "layer" then (readLayer width height visible e).map fun l => [l]
    else .ok []
  | _ => .ok []

def readLayersIn (width height : UInt32) (visible : Bool) : List Node → Read (List Layer)
  | [] => .ok []
  | n :: ns => do
    let first ← readLayers width height visible n
    let rest ← readLayersIn width height visible ns
    return first ++ rest

end

def readTilesetRef (dir : Path) (e : Element) : Read (TilesetRef × List WangSet) := do
  let firstGid ← readValue Text.uint32? "tileset" "firstgid"
    (← require (e.attribute? "firstgid") "tileset" "firstgid")
  match e.attribute? "source" with
  | some source => return (⟨firstGid, .external (dir.join source)⟩, [])
  | none =>
    let (tileset, sets) ← readTileset e
    return (⟨firstGid, .embedded tileset⟩, sets)

def readMapNode (dir : Path) (m : MapDocument) (n : Node) : Read MapDocument :=
  match n.element? with
  | none => .ok m
  | some e =>
    if e.name = "tileset" then
      (readTilesetRef dir e).map fun (ref, sets) =>
        ⟨{ m.map with tilesets := m.map.tilesets ++ [ref] }, m.wangSets ++ [sets]⟩
    else
      (readLayers m.map.width m.map.height true n).map fun layers =>
        { m with map := { m.map with layers := m.map.layers ++ layers } }

def readMapDocument (dir : Path) (e : Element) : Read MapDocument :=
  if e.name = "map" then do
    let head ← e.attributes.foldlM readMapAttribute MapHead.empty
    let map ← head.toMap
    e.children.foldlM (readMapNode dir) ⟨map, []⟩
  else .error (.missingElement "map")

end TileAtlas.Document
