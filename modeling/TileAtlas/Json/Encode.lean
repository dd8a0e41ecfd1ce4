/-
The JSON form of tilesets and maps.

Fields come in a fixed order. What is empty is left out of the fields that say so; a
missing tile reference is written as null. A property is written as the bare value, so
a floating-point number always has a point or an exponent to tell it from an integer.
-/

import TileAtlas.Document.Basic
import TileAtlas.Json.Number

namespace TileAtlas

open Json Wang

def Property.toJson : Property → Json
  | .bool b => .bool b
  | .int n => Json.ofInt n.toInt
  | .float x => Json.ofBinary Json.doubleRange x
  | .string s => Json.ofText s

def Properties.toJson (ps : Properties) : Json :=
  .object (ps.entries.map fun e => (Json.escape e.1, e.2.toJson))

def TileData.toJson (d : TileData) : Json :=
  .object (memberUnless d.className.isNone "class" (Json.ofOption Json.ofText d.className) ++
    memberUnless d.properties.isEmpty "properties" (Properties.toJson d.properties))

def uint32Json (n : UInt32) : Json := Json.ofNat n.toNat

def uint8Json (n : UInt8) : Json := Json.ofNat n.toNat

def SheetImage.toJson (i : SheetImage) : Json :=
  .object (member "source" (Json.ofText i.source) ++
    member "width" (uint32Json i.width) ++
    member "height" (uint32Json i.height) ++
    memberUnless i.trans.isNone "trans" (Json.ofOption Json.ofText i.trans))

def TileOffset.toJson (o : TileOffset) : Json :=
  .object [("x", Json.ofInt o.x.toInt), ("y", Json.ofInt o.y.toInt)]

def Tileset.toJson (t : Tileset) : Json :=
  .object (member "name" (Json.ofText t.name) ++
    memberUnless (t.className == "") "class" (Json.ofText t.className) ++
    member "tile_width" (uint32Json t.tileWidth) ++
    member "tile_height" (uint32Json t.tileHeight) ++
    member "tile_count" (uint32Json t.tileCount) ++
    member "columns" (uint32Json t.columns) ++
    member "spacing" (uint32Json t.spacing) ++
    member "margin" (uint32Json t.margin) ++
    memberUnless t.tileOffset.isNone "tile_offset" (Json.ofOption TileOffset.toJson t.tileOffset) ++
    memberUnless t.image.isNone "image" (Json.ofOption SheetImage.toJson t.image) ++
    memberUnless t.properties.isEmpty "properties" (Properties.toJson t.properties) ++
    memberUnless t.tiles.isEmpty "tiles"
      (.object (t.tiles.entries.map fun e => (toString e.1.toNat, e.2.toJson))))

def Wang.Rgba.toJson (c : Rgba) : Json :=
  .object [("r", uint8Json c.r), ("g", uint8Json c.g), ("b", uint8Json c.b), ("a", uint8Json c.a)]

def Wang.Color.toJson (c : Color) : Json :=
  .object [("name", Json.ofText c.name), ("color", c.color.toJson),
    ("tile", Json.ofOption uint32Json c.tile),
    ("probability", Json.ofBinary Json.singleRange c.probability)]

def Wang.Tile.toJson (t : Tile) : Json :=
  .object [("tile_id", uint32Json t.tileId), ("wang_id", .array (t.wangId.toList.map uint8Json))]

def Wang.SetType.variant : SetType → String
  | .corner => "Corner"
  | .edge => "Edge"
  | .mixed => "Mixed"

def Wang.WangSet.toJson (s : WangSet) : Json :=
  .object [("name", Json.ofText s.name), ("set_type", Json.ofText s.setType.variant),
    ("tile", Json.ofOption uint32Json s.tile),
    ("colors", .array (s.colors.map Color.toJson)),
    ("tiles", .array (s.tiles.map Tile.toJson))]

def TilesetDocument.toJson (d : TilesetDocument) : Json :=
  .object (memberUnless d.path.isNone "path" (Json.ofOption (fun p => Json.ofText p.text) d.path) ++
    member "tileset" d.tileset.toJson ++
    member "wang_sets" (.array (d.wangSets.map WangSet.toJson)))

def Role.variant : Role → String
  | .ground => "Ground"
  | .decoration => "Decoration"
  | .collision => "Collision"
  | .zone => "Zone"
  | .other => "Other"

def Layer.toJson (l : Layer) : Json :=
  .object [("name", Json.ofText l.name), ("visible", .bool l.visible),
    ("role", Json.ofText l.role.variant), ("gids", .array (l.gids.map uint32Json))]

def TilesetSource.toJson : TilesetSource → Json
  | .external path => .object [("External", Json.ofText path.text)]
  | .embedded tileset => .object [("Embedded", tileset.toJson)]

def TilesetRef.toJson (r : TilesetRef) : Json :=
  .object [("first_gid", uint32Json r.firstGid), ("source", r.source.toJson)]

def TileMap.toJson (m : TileMap) : Json :=
  .object [("width", uint32Json m.width), ("height", uint32Json m.height),
    ("tile_width", uint32Json m.tileWidth), ("tile_height", uint32Json m.tileHeight),
    ("tilesets", .array (m.tilesets.map TilesetRef.toJson)),
    ("layers", .array (m.layers.map Layer.toJson))]

end TileAtlas
