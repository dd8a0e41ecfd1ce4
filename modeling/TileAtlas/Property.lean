/-
Custom properties: named values with a declared type.

A property is written as a type name and a raw text. The four types that have a value
of their own are read strictly; every other type name keeps the raw text.
-/

import TileAtlas.Number.Shortest
import TileAtlas.Table
import TileAtlas.Text.Quoted

namespace TileAtlas

abbrev Double := Number.Binary Number.binary64

inductive Property where
  | bool (b : Bool)
  | int (n : Int64)
  | float (x : Double)
  | string (s : String)
deriving DecidableEq

abbrev Properties := Table String Property

namespace Property

/-- Read a raw text as a value of the named type; `none` when it does not fit. Numbers
may have white space around them, truth values may not. -/
def read? (typeName raw : String) : Option Property :=
  match typeName with
  | "bool" =>
    match raw with
    | "true" => some (.bool true)
    | "false" => some (.bool false)
    | _ => none
  | "int" => (Text.int64? (Text.trim raw)).map .int
  | "float" => (Number.Binary.read? Number.binary64 (Text.trim raw)).map .float
  | _ => some (.string raw)

def typeName : Property → String
  | .bool _ => "bool"
  | .int _ => "int"
  | .float _ => "float"
  | .string _ => "string"

/-- The raw text of a value: what `read?` takes back under its type name. -/
def raw : Property → String
  | .bool b => if b then "true" else "false"
  | .int n => toString n.toInt
  | .float x => x.plain
  | .string s => s

/-- A value as shown to a person: as written, but strings in quotes. -/
def shown : Property → String
  | .string s => Text.quoted s
  | v => v.raw

end Property

end TileAtlas
