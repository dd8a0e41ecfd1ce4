/-
Wang colors: the terrain classes of a set, and the display color of each.

A display color is written `#rrggbb`, or `#aarrggbb` when it is not opaque.
-/

import TileAtlas.Number.Shortest
import TileAtlas.Text.Numeral

namespace TileAtlas.Wang

structure Rgba where
  r : UInt8
  g : UInt8
  b : UInt8
  a : UInt8
deriving DecidableEq, Repr

namespace Rgba

def white : Rgba := ⟨255, 255, 255, 255⟩

instance : Inhabited Rgba := ⟨white⟩

/-- A byte in two places: two hexadecimal digits, or a plus sign and one digit. -/
def byte? : Char → Char → Option UInt8
  | '+', d => (Text.hexDigit? d).map UInt8.ofNat
  | c, d => do
    let high ← Text.hexDigit? c
    let low ← Text.hexDigit? d
    return UInt8.ofNat (16 * high + low)

/-- The color of the places after the mark: three bytes for an opaque color, four with
the opacity first. -/
def ofPlaces? : List Char → Option Rgba
  | [r₁, r₂, g₁, g₂, b₁, b₂] => do
    return ⟨← byte? r₁ r₂, ← byte? g₁ g₂, ← byte? b₁ b₂, 255⟩
  | [a₁, a₂, r₁, r₂, g₁, g₂, b₁, b₂] => do
    let a ← byte? a₁ a₂
    return ⟨← byte? r₁ r₂, ← byte? g₁ g₂, ← byte? b₁ b₂, a⟩
  | _ => none

/-- Read a color. White space around it is ignored and the mark may be missing. -/
def read? (s : String) : Option Rgba :=
  match Text.trimChars s.toList with
  | '#' :: cs => ofPlaces? cs
  | cs => ofPlaces? cs

def text (c : Rgba) : String :=
  let rgb := Text.hexByte c.r ++ Text.hexByte c.g ++ Text.hexByte c.b
  if c.a = 255 then "#" ++ rgb else "#" ++ Text.hexByte c.a ++ rgb

/-- What is said of a text that is no color. -/
def invalidMessage (s : String) : String :=
  s!"invalid color '{s}', expected #rrggbb or #aarrggbb"

/-- A text that is no color, as it was given. -/
structure ReadError where
  given : String
deriving DecidableEq, Repr

def ReadError.message (e : ReadError) : String :=
  invalidMessage e.given

/-- Read a color, or say which text is none. -/
def read (s : String) : Except ReadError Rgba :=
  match read? s with
  | some c => .ok c
  | none => .error ⟨s⟩

end Rgba

abbrev Single := Number.Binary Number.binary32

/-- The weight of a color that gives none. -/
def unitWeight : Single := Number.Binary.ofNat Number.binary32 1

structure Color where
  name : String
  color : Rgba
  tile : Option UInt32
  probability : Single
deriving DecidableEq

namespace Color

/-- A color with a name and a display color only. -/
def plain (name : String) (color : Rgba) : Color :=
  ⟨name, color, none, unitWeight⟩

/-- The name in messages; a color without one goes by its number. -/
def label (c : Color) (index : Nat) : String :=
  if c.name = "" then s!"#{index}" else c.name

/-- A weight has to be a finite number that is not below zero. -/
def hasValidProbability (c : Color) : Bool :=
  c.probability.isFinite && !c.probability.isNegative

end Color

end TileAtlas.Wang
