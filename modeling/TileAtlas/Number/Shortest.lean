/-
The shortest decimal that reads back as a given binary value, and its two layouts.

The reals that round to a value form an interval around it. `shortest` looks for the
coarsest power of ten with a multiple inside that interval, and of the two multiples
next to the value takes the nearer one. When both are equally near, the layout decides.

* `Binary.plain` writes every digit in place and never an exponent; of two equally near
  multiples it takes the greater one.
* `Binary.marked?` is the layout for data exchange: it keeps a decimal point in whole
  numbers and switches to an exponent outside a range of magnitudes; of two equally near
  multiples it takes the even one.
-/

import TileAtlas.Number.Decimal

namespace TileAtlas.Number

/-- The interval of reals that round to a finite value, as the numbers of quarters of
the last place at its lower end, its middle and its upper end. -/
def Format.quarters (f : Format) (m : Nat) (e : Int) : Nat × Nat × Nat :=
  let low := if m = f.leadingBit ∧ f.minExponent < e then 4 * m - 1 else 4 * m - 2
  (low, 4 * m, 4 * m + 2)

/-- Which of two equally near multiples to take. -/
inductive Tie where
  | toGreater
  | toEven
deriving DecidableEq, Repr

/-- Whether to take the greater one of two equally near multiples, given the lesser. -/
def Tie.takesGreater (tie : Tie) (c : Nat) : Bool :=
  match tie with
  | .toGreater => true
  | .toEven => c % 2 == 1

/-- The multiple of `10 ^ k` nearest to the value among those that round to it. -/
def onGrid? (tie : Tie) (f : Format) (m : Nat) (e k : Int) : Option Nat :=
  let (low, mid, high) := f.quarters m e
  let (p, q) := scaleBy 2 (e - 2) 1 1
  let (p, q) := scaleBy 10 (-k) p q
  let inside (c : Nat) : Bool :=
    if m % 2 = 0 then low * p ≤ c * q && c * q ≤ high * p
    else low * p < c * q && c * q < high * p
  let c := mid * p / q
  let below := inside c
  let above := inside (c + 1)
  if below && above then
    let toLesser := mid * p - c * q
    let toGreater := (c + 1) * q - mid * p
    if toGreater < toLesser || (toGreater == toLesser && tie.takesGreater c) then some (c + 1)
    else some c
  else if below then some c
  else if above then some (c + 1)
  else none

/-- Try the grids `10 ^ k`, `10 ^ (k - 1)`, … in turn. -/
def coarsestGrid (tie : Tie) (f : Format) (m : Nat) (e : Int) : Nat → Int → Nat × Int
  | 0, _ => (m, e)
  | fuel + 1, k =>
    match onGrid? tie f m e k with
    | some c => (c, k)
    | none => coarsestGrid tie f m e fuel (k - 1)

/-- The coefficient and exponent of the shortest decimal for a positive value. The
search starts above the value's own magnitude, and no format in use needs more than
seventeen digits. -/
def shortest (tie : Tie) (f : Format) (m : Nat) (e : Int) : Nat × Int :=
  let start := ((Nat.log2 m : Int) + e + 1) * 30103 / 100000 + 1
  coarsestGrid tie f m e 24 start

def zeros (n : Nat) : String :=
  String.ofList (List.replicate n '0')

/-- Digits with the decimal point placed by the exponent, without an exponent. The
flag says whether a whole number keeps a point and a zero. -/
def placed (keepPoint : Bool) (c : Nat) (e : Int) : String :=
  let ds := Nat.toDigits 10 c
  if 0 ≤ e then
    String.ofList ds ++ zeros e.toNat ++ (if keepPoint then ".0" else "")
  else
    let after := (-e).toNat
    if ds.length ≤ after then
      "0." ++ zeros (after - ds.length) ++ String.ofList ds
    else
      String.ofList (ds.take (ds.length - after)) ++ "." ++
        String.ofList (ds.drop (ds.length - after))

/-- Digits with the point after the first one and a signed exponent. -/
def scientific (c : Nat) (e : Int) : String :=
  let ds := Nat.toDigits 10 c
  let x : Int := e + ds.length - 1
  let mantissa := String.ofList (ds.take 1) ++
    (if ds.length ≤ 1 then "" else "." ++ String.ofList (ds.drop 1))
  mantissa ++ (if x < 0 then "e-" else "e+") ++ toString x.natAbs

/-- The magnitudes that are written without an exponent: from `10 ^ least` up to, but
not including, `10 ^ limit`. -/
structure PlainRange where
  least : Int
  limit : Int
deriving DecidableEq, Repr

namespace Binary

variable {f : Format}

/-- The number with every digit in place: no exponent, no point in a whole number. -/
def plain : Binary f → String
  | .nan => "NaN"
  | .infinite s => if s then "-inf" else "inf"
  | .finite s m e _ =>
    let sign := if s then "-" else ""
    if m = 0 then sign ++ "0"
    else
      let (c, k) := shortest .toGreater f m e
      sign ++ placed false c k

/-- The number with a point or an exponent, so that it cannot be mistaken for an
integer. Values that are not finite have no such form. -/
def marked? (range : PlainRange) : Binary f → Option String
  | .finite s m e _ =>
    let sign := if s then "-" else ""
    if m = 0 then some (sign ++ "0.0")
    else
      let (c, k) := shortest .toEven f m e
      let x : Int := k + (Nat.toDigits 10 c).length - 1
      if range.least ≤ x ∧ x < range.limit then some (sign ++ placed true c k)
      else some (sign ++ scientific c k)
  | _ => none

end Binary

end TileAtlas.Number
