/-
Numbers and stretches in the bytes of a file.
-/

namespace TileAtlas.Image

structure Size where
  width : Nat
  height : Nat
deriving DecidableEq, Repr

/-- A number from its bytes, the most significant one first. -/
def bigEndian (bytes : List UInt8) : Nat :=
  bytes.foldl (fun n b => 256 * n + b.toNat) 0

/-- A number from its bytes, the least significant one first. -/
def littleEndian (bytes : List UInt8) : Nat :=
  bigEndian bytes.reverse

/-- `n` bytes from an offset on, if there are as many. -/
def slice? (bytes : List UInt8) (start n : Nat) : Option (List UInt8) :=
  let part := (bytes.drop start).take n
  if part.length = n then some part else none

/-- The number of `n` bytes at an offset, the most significant one first. -/
def big? (bytes : List UInt8) (start n : Nat) : Option Nat :=
  (slice? bytes start n).map bigEndian

/-- The number of `n` bytes at an offset, the least significant one first. -/
def little? (bytes : List UInt8) (start n : Nat) : Option Nat :=
  (slice? bytes start n).map littleEndian

end TileAtlas.Image
