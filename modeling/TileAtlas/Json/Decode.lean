/-
Tilesets and maps from their JSON form.

A record may also be given as a list of its fields in order. Unknown fields are
ignored, a known field must not occur twice, and only the fields that may be left out
when writing may be missing when reading. Integers must not have a point or an
exponent; where a floating-point number is expected, an integer will do.
-/

import TileAtlas.Json.Encode
import TileAtlas.Json.Reader

namespace TileAtlas

open Json Wang

namespace Json

/-- The known fields that a record gives, under their names. -/
def record? (names : List String) : Json → Option (List (String × Json))
  | .object members => do
    let members ← members.mapM fun m => (unescape? m.1).map (fun k => (k, m.2))
    let known := members.filter (fun m => names.contains m.1)
    if (known.map (·.1)).Nodup then some known else none
  | .array items => if items.length ≤ names.length then some (names.zip items) else none
  | _ => none

def field? {α : Type} (fields : List (String × Json)) (name : String) (read? : Json → Option α) :
    Option α :=
  (fields.lookup name).bind read?

/-- A field with a value to take if it is missing. -/
def fieldOr {α : Type} (fields : List (String × Json)) (name : String) (missing : α)
    (read? : Json → Option α) : Option α :=
  match fields.lookup name with
  | some j => read? j
  | none => some missing

def nullable? {α : Type} (read? : Json → Option α) : Json → Option (Option α)
  | .null => some none
  | j => (read? j).map some

def text? : Json → Option String
  | .string body => unescape? body
  | _ => none

def bool? : Json → Option Bool
  | .bool b => some b
  | _ => none

def list? {α : Type} (read? : Json → Option α) : Json → Option (List α)
  | .array items => items.mapM read?
  | _ => none

def uint32? : Json → Option UInt32
  | .number l => ((natural? l).bind (Text.below? UInt32.size)).map UInt32.ofNat
  | _ => none

def uint8? : Json → Option UInt8
  | .number l => ((natural? l).bind (Text.below? UInt8.size)).map UInt8.ofNat
  | _ => none

def int32? : Json → Option Int32
  | .number l => 
    ((integer? l).bind (Text.between? Int32.minValue.toInt Int32.maxValue.toInt)).map Int32.ofInt
  | _ => none

def member? {κ α : Type} (key? : String → Option κ) (value? : Json → Option α)
    (m : String × Json) : Option (κ × α) := do
  let key ← key? m.1
  let value ← value? m.2
  return (key, value)

/-- A variant without content: its name, or its name with null. -/
def variant? : Json → Option String
  | .string body => unescape? body
  | .object [(key, .null)] => unescape? key
  | _ => none

end Json

/-- A property by the shape of its value: a number that is an integer of 64 bits is an
integer, any other number is a floating-point number. -/
def Property.ofJson? : Json → Option Property
  | .bool b => some (.bool b)
  | .number l =>
    match (Json.integer? l).bind (Text.between? Int64.minValue.toInt Int64.maxValue.toInt) with
    | some n => some (.int (Int64.ofInt n))
    | none => (Json.double? l).map .float
  | .string body => (unescape? body).map .string
  | _ => none

def Properties.ofJson? : Json → Option Properties
  | .object members =>
    (members.mapM (member? unescape? Property.ofJson?)).map Table.ofList
  | _ => none

def TileData.ofJson? (j : Json) : Option TileData := do
  let r ← j.record? ["class", "properties"]
  let className ← fieldOr r "class" none (nullable? text?)
  let properties ← fieldOr r "properties" ∅ Properties.ofJson?
  return ⟨className, properties⟩

def SheetImage.ofJson? (j : Json) : Option SheetImage := do
  let r ← j.record? ["source", "width", "height", "trans"]
  let source ← field? r "source" text?
  let width ← field? r "width" uint32?
  let height ← field? r "height" uint32?
  let trans ← fieldOr r "trans" none (nullable? text?)
  return ⟨source, width, height, trans⟩

def TileOffset.ofJson? (j : Json) : Option TileOffset := do
  let r ← j.record? ["x", "y"]
  let x ← field? r "x" int32?
  let y ← field? r "y" int32?
  return ⟨x, y⟩

/-- The id that is the key of a tile: written like a JSON number, so without escapes and
without leading zeros. -/
def tileKey? (key : String) : Option UInt32 :=
  match key.toList with
  | '0' :: _ :: _ => none
  | _ => ((Json.natural? key).bind (Text.below? UInt32.size)).map UInt32.ofNat

def tilesOfJson? : Json → Option (Table UInt32 TileData)
  | .object members =>
    (members.mapM (member? tileKey? TileData.ofJson?)).map Table.ofList
  | _ => none

def Tileset.ofJson? (j : Json) : Option Tileset := do
  let r ← j.record? ["name", "class", "tile_width", "tile_height", "tile_count", "columns",
    "spacing", "margin", "tile_offset", "image", "properties", "tiles"]
  let name ← field? r "name" text?
  let className ← fieldOr r "class" "" text?
  let tileWidth ← field? r "tile_width" uint32?
  let tileHeight ← field? r "tile_height" uint32?
  let tileCount ← field? r "tile_count" uint32?
  let columns ← field? r "columns" uint32?
  let spacing ← fieldOr r "spacing" 0 uint32?
  let margin ← fieldOr r "margin" 0 uint32?
  let tileOffset ← fieldOr r "tile_offset" none (nullable? TileOffset.ofJson?)
  let image ← fieldOr r "image" none (nullable? SheetImage.ofJson?)
  let properties ← fieldOr r "properties" ∅ Properties.ofJson?
  let tiles ← fieldOr r "tiles" ∅ tilesOfJson?
  return ⟨name, className, tileWidth, tileHeight, tileCount, columns, spacing, margin,
    tileOffset, image, properties, tiles⟩

def Wang.Rgba.ofJson? (j : Json) : Option Rgba := do
  let fields ← j.record? ["r", "g", "b", "a"]
  let r ← field? fields "r" uint8?
  let g ← field? fields "g" uint8?
  let b ← field? fields "b" uint8?
  let a ← field? fields "a" uint8?
  return ⟨r, g, b, a⟩

def probabilityOfJson? : Json → Option Single
  | .number l => Json.single? l
  | _ => none

def Wang.Color.ofJson? (j : Json) : Option Color := do
  let r ← j.record? ["name", "color", "tile", "probability"]
  let name ← field? r "name" text?
  let color ← field? r "color" Rgba.ofJson?
  let tile ← fieldOr r "tile" none (nullable? uint32?)
  let probability ← field? r "probability" probabilityOfJson?
  return ⟨name, color, tile, probability⟩

def Wang.Id.ofJson? (j : Json) : Option Id := do
  match ← list? uint8? j with
  | [c₀, c₁, c₂, c₃, c₄, c₅, c₆, c₇] => return .ofColors c₀ c₁ c₂ c₃ c₄ c₅ c₆ c₇
  | _ => none

def Wang.Tile.ofJson? (j : Json) : Option Tile := do
  let r ← j.record? ["tile_id", "wang_id"]
  let tileId ← field? r "tile_id" uint32?
  let wangId ← field? r "wang_id" Id.ofJson?
  return ⟨tileId, wangId⟩

def Wang.SetType.ofJson? (j : Json) : Option SetType :=
  match Json.variant? j with
  | some "Corner" => some .corner
  | some "Edge" => some .edge
  | some "Mixed" => some .mixed
  | _ => none

def Wang.WangSet.ofJson? (j : Json) : Option WangSet := do
  let r ← j.record? ["name", "set_type", "tile", "colors", "tiles"]
  let name ← field? r "name" text?
  let setType ← field? r "set_type" SetType.ofJson?
  let tile ← fieldOr r "tile" none (nullable? uint32?)
  let colors ← field? r "colors" (list? Color.ofJson?)
  let tiles ← field? r "tiles" (list? Tile.ofJson?)
  return ⟨name, setType, tile, colors, tiles⟩

def pathOfJson? (j : Json) : Option Path :=
  (text? j).map Path.mk

def TilesetDocument.ofJson? (j : Json) : Option TilesetDocument := do
  let r ← j.record? ["path", "tileset", "wang_sets"]
  let path ← fieldOr r "path" none (nullable? pathOfJson?)
  let tileset ← field? r "tileset" Tileset.ofJson?
  let wangSets ← fieldOr r "wang_sets" [] (list? WangSet.ofJson?)
  return ⟨path, tileset, wangSets⟩

def Role.ofJson? (j : Json) : Option Role :=
  match Json.variant? j with
  | some "Ground" => some .ground
  | some "Decoration" => some .decoration
  | some "Collision" => some .collision
  | some "Zone" => some .zone
  | some "Other" => some .other
  | _ => none

def Layer.ofJson? (j : Json) : Option Layer := do
  let r ← j.record? ["name", "visible", "role", "gids"]
  let name ← field? r "name" text?
  let visible ← field? r "visible" bool?
  let role ← field? r "role" Role.ofJson?
  let gids ← field? r "gids" (list? uint32?)
  return ⟨name, visible, role, gids⟩

def TilesetSource.ofJson? : Json → Option TilesetSource
  | .object [(key, content)] => do
    match ← unescape? key with
    | "External" => (pathOfJson? content).map .external
    | "Embedded" => (Tileset.ofJson? content).map .embedded
    | _ => none
  | _ => none

def TilesetRef.ofJson? (j : Json) : Option TilesetRef := do
  let r ← j.record? ["first_gid", "source"]
  let firstGid ← field? r "first_gid" uint32?
  let source ← field? r "source" TilesetSource.ofJson?
  return ⟨firstGid, source⟩

def TileMap.ofJson? (j : Json) : Option TileMap := do
  let r ← j.record? ["width", "height", "tile_width", "tile_height", "tilesets", "layers"]
  let width ← field? r "width" uint32?
  let height ← field? r "height" uint32?
  let tileWidth ← field? r "tile_width" uint32?
  let tileHeight ← field? r "tile_height" uint32?
  let tilesets ← field? r "tilesets" (list? TilesetRef.ofJson?)
  let layers ← field? r "layers" (list? Layer.ofJson?)
  return ⟨width, height, tileWidth, tileHeight, tilesets, layers⟩

end TileAtlas
