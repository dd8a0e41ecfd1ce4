/-
Reading tilesets from their elements.

Attributes are read in the order they are written and by their local names, so the
first bad one is the error that is reported and a later one replaces an earlier one of
the same local name. Then the required ones are checked, and then the elements inside
are read in document order.
-/

import TileAtlas.Document.Attributes

namespace TileAtlas.Document

open Markup (Element Attribute)
open Wang (Rgba WangSet)

/-- The attributes of a tileset: the tile size is missing until it is read. -/
structure TilesetHead where
  tileset : Tileset
  tileWidth : Option UInt32
  tileHeight : Option UInt32

def TilesetHead.empty : TilesetHead := ⟨Tileset.empty, none, none⟩

def readTilesetAttribute (h : TilesetHead) (a : Attribute) : Read TilesetHead :=
  let number := readValue Text.uint32? "tileset" a.name a.value
  match a.name with
  | "name" => .ok { h with tileset := { h.tileset with name := a.value } }
  | "class" => .ok { h with tileset := { h.tileset with className := a.value } }
  | "tilewidth" => number.map fun n => { h with tileWidth := some n }
  | "tileheight" => number.map fun n => { h with tileHeight := some n }
  | "tilecount" => number.map fun n => { h with tileset := { h.tileset with tileCount := n } }
  | "columns" => number.map fun n => { h with tileset := { h.tileset with columns := n } }
  | "spacing" => number.map fun n => { h with tileset := { h.tileset with spacing := n } }
  | "margin" => number.map fun n => { h with tileset := { h.tileset with margin := n } }
  | _ => .ok h

def readTileOffset (e : Element) : Read TileOffset :=
  e.attributes.foldlM (fun o (a : Attribute) =>
    match a.name with
    | "x" => (readValue Text.int32? "tileoffset" "x" a.value).map fun n => { o with x := n }
    | "y" => (readValue Text.int32? "tileoffset" "y" a.value).map fun n => { o with y := n }
    | _ => .ok o) ⟨0, 0⟩

/-- The attributes of an image, the source missing until it is read. -/
def readImageAttribute (i : SheetImage × Option String) (a : Attribute) :
    Read (SheetImage × Option String) :=
  let number := readValue Text.uint32? "image" a.name a.value
  match a.name with
  | "source" => .ok (i.1, some a.value)
  | "width" => number.map fun n => ({ i.1 with width := n }, i.2)
  | "height" => number.map fun n => ({ i.1 with height := n }, i.2)
  | "trans" => .ok ({ i.1 with trans := some a.value }, i.2)
  | _ => .ok i

def readImage (e : Element) : Read SheetImage := do
  let (image, source) ← e.attributes.foldlM readImageAttribute (⟨"", 0, 0, none⟩, none)
  let source ← require source "image" "source"
  return { image with source := source }

/-- Read what is said about one tile. The class may be under its older name, and only
the first property list counts. -/
def readTile (e : Element) : Read (UInt32 × TileData) := do
  let id ← readValue Text.uint32? "tile" "id" (← require (e.attribute? "id") "tile" "id")
  let className := (e.attribute? "class").or (e.attribute? "type")
  let properties ←
    match e.child? "properties" with
    | some p => readProperties p
    | none => pure ∅
  return (id, ⟨className, properties⟩)

def readWangColor (e : Element) : Read Wang.Color :=
  e.attributes.foldlM (fun c (a : Attribute) =>
    match a.name with
    | "name" => .ok { c with name := a.value }
    | "color" => (readValue Rgba.read? "wangcolor" "color" a.value).map fun v => { c with color := v }
    | "tile" => (readValue tileRef? "wangcolor" "tile" a.value).map fun v => { c with tile := v }
    | "probability" =>
      (readValue (Number.Binary.read? Number.binary32) "wangcolor" "probability" a.value).map
        fun v => { c with probability := v }
    | _ => .ok c) (Wang.Color.plain "" Rgba.white)

def readWangTile (e : Element) : Read Wang.Tile := do
  let id ← readValue Text.uint32? "wangtile" "tileid"
    (← require (e.attribute? "tileid") "wangtile" "tileid")
  let text ← require (e.attribute? "wangid") "wangtile" "wangid"
  match Wang.Id.read text with
  | .ok w => return ⟨id, w⟩
  | .error cause => throw (.invalidWangId id cause)

/-- The attributes of a Wang set, the type missing until it is read. -/
def readWangSetAttribute (s : WangSet × Option Wang.SetType) (a : Attribute) :
    Read (WangSet × Option Wang.SetType) :=
  match a.name with
  | "name" => .ok ({ s.1 with name := a.value }, s.2)
  | "type" =>
    match Wang.SetType.read? a.value with
    | some t => .ok (s.1, some t)
    | none => .error (.invalidAttribute "wangset" "type" a.value)
  | "tile" => (readValue tileRef? "wangset" "tile" a.value).map fun v => ({ s.1 with tile := v }, s.2)
  | _ => .ok s

def readWangSetChild (s : WangSet) (e : Element) : Read WangSet :=
  match e.name with
  | "wangcolor" => (readWangColor e).map fun c => { s with colors := s.colors ++ [c] }
  | "wangtile" => (readWangTile e).map fun t => { s with tiles := s.tiles ++ [t] }
  | _ => .ok s

def readWangSet (e : Element) : Read WangSet := do
  let (set, setType) ← e.attributes.foldlM readWangSetAttribute (WangSet.blank "" .corner, none)
  let setType ← require setType "wangset" "type"
  e.elements.foldlM readWangSetChild { set with setType := setType }

/-- Read an element inside a tileset. A tile about which nothing is said leaves no
entry. -/
def readTilesetChild (t : Tileset × List WangSet) (e : Element) : Read (Tileset × List WangSet) :=
  match e.name with
  | "tileoffset" => (readTileOffset e).map fun o => ({ t.1 with tileOffset := some o }, t.2)
  | "image" => (readImage e).map fun i => ({ t.1 with image := some i }, t.2)
  | "properties" => (readProperties e).map fun p => ({ t.1 with properties := p }, t.2)
  | "tile" => (readTile e).map fun (id, data) =>
    if data.isEmpty then t else ({ t.1 with tiles := t.1.tiles.insert id data }, t.2)
  | "wangsets" =>
    ((e.elementsNamed "wangset").mapM readWangSet).map fun sets => (t.1, t.2 ++ sets)
  | _ => .ok t

def readTileset (e : Element) : Read (Tileset × List WangSet) := do
  let head ← e.attributes.foldlM readTilesetAttribute TilesetHead.empty
  let tileWidth ← require head.tileWidth "tileset" "tilewidth"
  let tileHeight ← require head.tileHeight "tileset" "tileheight"
  e.elements.foldlM readTilesetChild
    ({ head.tileset with tileWidth := tileWidth, tileHeight := tileHeight }, [])

def readTilesetDocument (e : Element) : Read TilesetDocument :=
  if e.name = "tileset" then (readTileset e).map fun (t, sets) => ⟨none, t, sets⟩
  else .error (.missingElement "tileset")

end TileAtlas.Document
