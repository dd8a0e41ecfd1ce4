/-
Decimal numbers with an exponent, and the binary value they are read as.

`Decimal.toBinary` rounds the exact decimal once, so reading never depends on how
many digits are given. `Binary.read?` accepts a sign, digits with at most one point
and at least one digit, and an optional exponent, or one of the words for infinity
and not-a-number in any letter case.
-/

import TileAtlas.Number.Binary
import TileAtlas.Text.Numeral

namespace TileAtlas.Number

/-- The number `coefficient * 10 ^ exponent` with a sign. -/
structure Decimal where
  negative : Bool
  coefficient : Nat
  exponent : Int
deriving DecidableEq, Repr

/-- The binary value nearest to a decimal. A magnitude beyond `10 ^ 400` or below
`10 ^ -400` is outside every format in use, so it is not spelled out first. -/
def Decimal.toBinary (f : Format) (d : Decimal) : Binary f :=
  let magnitude : Int := (Nat.toDigits 10 d.coefficient).length + d.exponent
  if d.coefficient = 0 ∨ magnitude < -400 then Binary.ofRatio f d.negative 0 1
  else if 400 < magnitude then .infinite d.negative
  else
    let (n, k) := scaleBy 10 d.exponent d.coefficient 1
    Binary.ofRatio f d.negative n k

def spanDigits (cs : List Char) : List Char × List Char :=
  (cs.takeWhile Char.isDigit, cs.dropWhile Char.isDigit)

/-- The exponent part after the digits: absent, or a mark and a signed numeral. -/
def exponentPart? : List Char → Option Int
  | [] => some 0
  | c :: cs => if c = 'e' ∨ c = 'E' then Text.integer? cs else none

/-- An unsigned decimal: digits, an optional point with digits on at least one side of
it, and an optional exponent. -/
def decimal? (negative : Bool) (cs : List Char) : Option Decimal :=
  let (whole, rest) := spanDigits cs
  let (fraction, rest) :=
    match rest with
    | '.' :: rest => spanDigits rest
    | rest => ([], rest)
  if whole.isEmpty && fraction.isEmpty then none
  else
    (exponentPart? rest).map fun e =>
      { negative := negative,
        coefficient := Text.digitsValue (whole ++ fraction),
        exponent := e - fraction.length }

/-- What stands after the sign: a word or a decimal. -/
def Binary.readMagnitude? (f : Format) (negative : Bool) (cs : List Char) :
    Option (Binary f) :=
  let word := Text.lowerAscii (String.ofList cs)
  if word = "inf" ∨ word = "infinity" then some (.infinite negative)
  else if word = "nan" then some .nan
  else (decimal? negative cs).map (Decimal.toBinary f)

def Binary.read? (f : Format) (s : String) : Option (Binary f) :=
  match s.toList with
  | '+' :: cs => Binary.readMagnitude? f false cs
  | '-' :: cs => Binary.readMagnitude? f true cs
  | cs => Binary.readMagnitude? f false cs

end TileAtlas.Number
