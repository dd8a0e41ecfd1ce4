/-
Reading attributes and property lists.

Numbers and colors in attributes may have white space around them; an error shows the
value as written.
-/

import TileAtlas.Document.Basic
import TileAtlas.Markup.Tree

namespace TileAtlas.Document

open Markup (Element)

abbrev Read := Except ReadError

/-- A value that has to be there. -/
def require {α : Type} (value : Option α) (element name : String) : Read α :=
  match value with
  | some v => .ok v
  | none => .error (.missingAttribute element name)

def readValue {α : Type} (read? : String → Option α) (element name value : String) : Read α :=
  match read? (Text.trim value) with
  | some v => .ok v
  | none => .error (.invalidAttribute element name value)

/-- A reference to a tile: any negative number is no tile. -/
def tileRef? (s : String) : Option (Option UInt32) :=
  (Text.int64? s).bind fun n =>
    if n.toInt < 0 then some none
    else if n.toInt < UInt32.size then some (some (UInt32.ofNat n.toInt.toNat))
    else none

/-- Read one property: a type, and a value in an attribute or else in the text. -/
def readProperty (e : Element) : Read (String × Property) := do
  let name ← require (e.attribute? "name") "property" "name"
  let typeName := (e.attribute? "type").getD "string"
  let raw := ((e.attribute? "value").or e.text?).getD ""
  match Property.read? typeName raw with
  | some value => return (name, value)
  | none => throw (.invalidAttribute "property" name raw)

/-- Read a list of properties. Of two properties with one name the later one counts. -/
def readProperties (e : Element) : Read Properties := do
  let bindings ← (e.elementsNamed "property").mapM readProperty
  return Table.ofList bindings

end TileAtlas.Document
