/-
What number literals stand for.

A literal without point and exponent is an integer, except for a zero with a minus
sign. Any literal can be read as a floating-point number, by a method that is quick
rather than exact: the leading digits that fit in 64 bits make up a significand, and
this is scaled by a power of ten, with a rounding at each step.
-/

import TileAtlas.Json.Basic
import TileAtlas.Number.Shortest

namespace TileAtlas.Json

open Number

/-- Magnitudes of double-precision numbers written without an exponent. -/
def doubleRange : PlainRange := ⟨-5, 16⟩

/-- Magnitudes of single-precision numbers written without an exponent. -/
def singleRange : PlainRange := ⟨-6, 13⟩

/-- The number of a floating-point value; there is none for values that are not
finite. -/
def ofBinary {f : Format} (range : PlainRange) (x : Binary f) : Json :=
  match x.marked? range with
  | some literal => .number literal
  | none => .null

def natural? (literal : String) : Option Nat :=
  Text.digits? literal.toList

def integer? (literal : String) : Option Int :=
  match literal.toList with
  | '-' :: ds => ((Text.digits? ds).filter (· != 0)).map (fun n => -(n : Int))
  | ds => (Text.digits? ds).map Int.ofNat

/-- Digits taken into a significand as long as it fits in 64 bits, and the number of
digits taken. -/
def takeDigits (significand : Nat) : List Char → Nat × Nat
  | [] => (significand, 0)
  | d :: ds =>
    let next := 10 * significand + (d.toNat - '0'.toNat)
    if next < UInt64.size then
      let (s, n) := takeDigits next ds
      (s, n + 1)
    else (significand, 0)

/-- A significand times a power of ten. The power is applied as a double itself; a very
small one in two steps, after which nothing would be left for a third. `none` if the
result is too large. -/
def scaled? (significand : Nat) (exponent : Int) : Option (Binary binary64) :=
  let power (k : Int) : Binary binary64 := Binary.ofNat binary64 (Nat.pow 10 k.toNat)
  let start := Binary.ofNat binary64 significand
  if significand = 0 then some start
  else if 308 < exponent then none
  else if 0 ≤ exponent then some (start.mul (power exponent)) |>.filter (·.isFinite)
  else if -308 ≤ exponent then some (start.div (power (-exponent)))
  else if -616 ≤ exponent then some ((start.div (power 308)).div (power (-exponent - 308)))
  else some (Binary.ofNat binary64 0)

/-- The double a literal is read as; `none` if it is too large for one. -/
def double? (literal : String) : Option (Binary binary64) := do
  let (negative, cs) :=
    match literal.toList with
    | '-' :: cs => (true, cs)
    | cs => (false, cs)
  let (whole, rest) := spanDigits cs
  let (fraction, rest) :=
    match rest with
    | '.' :: rest => spanDigits rest
    | rest => ([], rest)
  let exponent ← Number.exponentPart? rest
  let (significand, taken) := takeDigits 0 whole
  let (significand, places) := takeDigits significand fraction
  let x ← scaled? significand (exponent + (whole.length - taken : Nat) - places)
  return if negative then x.neg else x

/-- The single-precision number a literal is read as. An integer that fits in 64 bits is
rounded once, all else goes through a double. -/
def single? (literal : String) : Option (Binary binary32) :=
  match integer? literal with
  | some n =>
    if Int64.minValue.toInt ≤ n ∧ n < UInt64.size then
      some (Binary.ofRatio binary32 (n < 0) n.natAbs 1)
    else (double? literal).map (Binary.convert binary32)
  | none => (double? literal).map (Binary.convert binary32)

end TileAtlas.Json
