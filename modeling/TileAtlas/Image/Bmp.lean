/-
The size of a BMP image.

A file header of fourteen bytes is followed by an information header that says how long
it is and so of which kind. The oldest kind has the size in two bytes each; all others
start with the same forty bytes, with the size in four bytes each. Tables that the
header promises, of colors or of bit masks, have to be there.
-/

import TileAtlas.Image.Bytes

namespace TileAtlas.Image.Bmp

inductive Storage where
  | indexed
  | direct
  | masked
deriving DecidableEq, Repr

/-- How pixels are stored, by the method of compression and the bits of a pixel. -/
def Storage.of? (compression bits : Nat) : Option Storage :=
  match compression with
  | 0 =>
    if bits ∈ [1, 2, 4, 8] then some .indexed
    else if bits ∈ [16, 24, 32] then some .direct
    else none
  | 1 => if bits = 8 then some .indexed else none
  | 2 => if bits = 4 then some .indexed else none
  | 3 => if bits ∈ [16, 32] then some .masked else none
  | _ => none

/-- Whether the bits of a mask stand side by side, within the bits of a pixel. -/
def maskFits (bits mask : Nat) : Bool :=
  let digits := (List.range 32).map mask.testBit
  ((digits.dropWhile (!·)).dropWhile id).all (!·) && mask < 1 <<< bits

/-- Whether the masks of a picture are there and fit: one for each of three colors and,
in newer headers, one for opacity, which may be empty. -/
def masksFit (bytes : List UInt8) (header bits : Nat) : Bool :=
  let colors := [54, 58, 62].map fun start => little? bytes start 4
  let opacity := if header < 56 then some 0 else little? bytes 66 4
  colors.all (fun mask => mask.any fun m => m != 0 && maskFits bits m) &&
    opacity.any (maskFits bits)

/-- Whether the color table is there. It has as many colors as the header says, and one
for each value of a pixel if it says nothing. -/
def tableFits (bytes : List UInt8) (start colorSpan bits used : Nat) : Bool :=
  used ≤ 1 <<< bits && start + colorSpan * (if used = 0 then 1 <<< bits else used) ≤ bytes.length

def oldSize? (bytes : List UInt8) : Option Size := do
  let width ← little? bytes 18 2
  let height ← little? bytes 20 2
  let planes ← little? bytes 22 2
  let bits ← little? bytes 24 2
  if 0 < width ∧ 0 < height ∧ planes = 1 ∧
      (bits = 24 ∨ bits ∈ [1, 4, 8] ∧ tableFits bytes 26 3 bits 0) then
    return ⟨width, height⟩
  else none

/-- The number of rows, in two's complement: rows that are stored from the top are
counted as negative. They cannot be compressed, and they are free of the common limit. -/
def rowCount? (compression n : Nat) : Option Nat :=
  if n < 0x80000000 then
    if 0 < n ∧ n ≤ 0xFFFF then some n else none
  else if 0x80000000 < n ∧ compression ∈ [0, 3] then some (UInt32.size - n)
  else none

/-- Whether the tables that come with a kind of storage are there and fit. -/
def Storage.tablesFit (bytes : List UInt8) (header bits used : Nat) : Storage → Bool
  | .indexed => tableFits bytes (14 + header) 4 bits used
  | .direct => true
  | .masked => masksFit bytes header bits

def newSize? (bytes : List UInt8) (header : Nat) : Option Size := do
  let width ← little? bytes 18 4
  let height ← little? bytes 22 4
  let planes ← little? bytes 26 2
  let bits ← little? bytes 28 2
  let compression ← little? bytes 30 4
  let used ← little? bytes 46 4
  let _important ← little? bytes 50 4
  let storage ← Storage.of? compression bits
  let rows ← rowCount? compression height
  if 0 < width ∧ width ≤ 0xFFFF ∧ planes = 1 ∧ storage.tablesFit bytes header bits used then
    return ⟨width, rows⟩
  else none

def size? (bytes : List UInt8) : Option Size := do
  let start ← slice? bytes 0 2
  let header ← little? bytes 14 4
  if start ≠ [0x42, 0x4D] then none
  else if header = 12 then oldSize? bytes
  else if header ∈ [40, 52, 56, 108, 124] then newSize? bytes header
  else none

end TileAtlas.Image.Bmp
