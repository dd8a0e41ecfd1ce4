/-
Reading integers written in decimal.

A numeral is an optional sign and one or more ASCII digits; leading zeros are
allowed, white space and digit separators are not. The readers for a fixed width
accept exactly the numerals whose value that width can hold.
-/

import TileAtlas.Text.Blank

namespace TileAtlas.Text

/-- The number a run of decimal digits stands for. -/
def digitsValue (ds : List Char) : Nat :=
  ds.foldl (fun n d => 10 * n + (d.toNat - '0'.toNat)) 0

def digits? (cs : List Char) : Option Nat :=
  if !cs.isEmpty && cs.all Char.isDigit then some (digitsValue cs) else none

/-- A numeral of an unsigned quantity: a plus sign is allowed, a minus sign is not. -/
def natural? : List Char → Option Nat
  | '+' :: cs => digits? cs
  | cs => digits? cs

def integer? : List Char → Option Int
  | '+' :: cs => (digits? cs).map Int.ofNat
  | '-' :: cs => (digits? cs).map (fun n => -(n : Int))
  | cs => (digits? cs).map Int.ofNat

/-- A number if it lies below a bound. -/
def below? (bound n : Nat) : Option Nat :=
  if n < bound then some n else none

/-- A number if it lies between two bounds, both included. -/
def between? (lo hi n : Int) : Option Int :=
  if lo ≤ n ∧ n ≤ hi then some n else none

def uint8? (s : String) : Option UInt8 :=
  ((natural? s.toList).bind (below? UInt8.size)).map UInt8.ofNat

def uint32? (s : String) : Option UInt32 :=
  ((natural? s.toList).bind (below? UInt32.size)).map UInt32.ofNat

def int32? (s : String) : Option Int32 :=
  ((integer? s.toList).bind (between? Int32.minValue.toInt Int32.maxValue.toInt)).map Int32.ofInt

def int64? (s : String) : Option Int64 :=
  ((integer? s.toList).bind (between? Int64.minValue.toInt Int64.maxValue.toInt)).map Int64.ofInt

/-- The value of a hexadecimal digit of either case. -/
def hexDigit? (c : Char) : Option Nat :=
  if c.isDigit then some (c.toNat - '0'.toNat)
  else if 'a' ≤ c ∧ c ≤ 'f' then some (c.toNat - 'a'.toNat + 10)
  else if 'A' ≤ c ∧ c ≤ 'F' then some (c.toNat - 'A'.toNat + 10)
  else none

def hexDigits? : List Char → Option Nat
  | [] => none
  | c :: cs => (c :: cs).foldlM (fun n d => (hexDigit? d).map (16 * n + ·)) 0

/-- One byte in two lower-case hexadecimal digits. -/
def hexByte (b : UInt8) : String :=
  String.ofList [Nat.digitChar (b.toNat / 16), Nat.digitChar (b.toNat % 16)]

end TileAtlas.Text
