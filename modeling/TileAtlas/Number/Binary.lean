/-
Binary floating-point numbers, exactly.

A `Format` fixes the number of significand bits and the range of exponents; a
`Binary f` is one of the values of that format. A finite value is a natural
significand times a power of two, in the one form the format allows, so two finite
values of a format are equal exactly when sign, significand and exponent are.

Everything that rounds goes through `Binary.ofRatio`, which takes an exact fraction
to the nearest value of the format, ties to the even significand, and to infinity
past the largest one.
-/

namespace TileAtlas.Number

/-- The shape of a binary floating-point format. `minExponent` and `maxExponent` bound
the exponent of the last bit of the significand. -/
structure Format where
  precision : Nat
  minExponent : Int
  maxExponent : Int
deriving DecidableEq, Repr

def binary64 : Format := ⟨53, -1074, 971⟩

def binary32 : Format := ⟨24, -149, 104⟩

/-- The first significand that does not fit. -/
def Format.limit (f : Format) : Nat :=
  Nat.pow 2 f.precision

def Format.leadingBit (f : Format) : Nat :=
  Nat.pow 2 (f.precision - 1)

/-- A significand and exponent in the form the format stores: the significand fits,
and it has its leading bit unless the exponent is the least one. -/
def Format.Canonical (f : Format) (m : Nat) (e : Int) : Prop :=
  m < f.limit ∧ f.minExponent ≤ e ∧ e ≤ f.maxExponent ∧
    (f.leadingBit ≤ m ∨ e = f.minExponent)

instance (f : Format) (m : Nat) (e : Int) : Decidable (f.Canonical m e) := by
  unfold Format.Canonical; infer_instance

inductive Binary (f : Format) where
  | nan
  | infinite (negative : Bool)
  | finite (negative : Bool) (significand : Nat) (exponent : Int)
      (canonical : f.Canonical significand exponent)
deriving DecidableEq

/-- Multiply a fraction by a power of a base, the exponent of either sign. -/
def scaleBy (base : Nat) (e : Int) (num den : Nat) : Nat × Nat :=
  (num * Nat.pow base e.toNat, den * Nat.pow base (-e).toNat)

/-- The integer nearest to a fraction; halfway cases go to the even neighbour. -/
def roundQuotient (num den : Nat) : Nat :=
  let q := num / den
  let r := num % den
  if den < 2 * r ∨ (2 * r = den ∧ q % 2 = 1) then q + 1 else q

/-- The exponent of the greatest power of two not above a positive fraction. -/
def floorLog2 (num den : Nat) : Int :=
  let k : Int := (Nat.log2 num : Int) - Nat.log2 den
  let (n, d) := scaleBy 2 (-k) num den
  if d ≤ n then k else k - 1

namespace Binary

variable {f : Format}

/-- The value of the format nearest to a fraction. -/
def ofRatio (f : Format) (negative : Bool) (num den : Nat) : Binary f :=
  let e : Int :=
    if num = 0 then f.minExponent
    else max (floorLog2 num den - (f.precision - 1 : Nat)) f.minExponent
  let (n, d) := scaleBy 2 (-e) num den
  let m := roundQuotient n d
  let (m, e) := if m = f.limit then (f.leadingBit, e + 1) else (m, e)
  if h : f.Canonical m e then .finite negative m e h else .infinite negative

def ofNat (f : Format) (n : Nat) : Binary f :=
  ofRatio f false n 1

def ratio (m : Nat) (e : Int) : Nat × Nat :=
  scaleBy 2 e m 1

def isFinite : Binary f → Bool
  | .finite .. => true
  | _ => false

/-- Below zero. Neither zero is below zero, and not-a-number is not either. -/
def isNegative : Binary f → Bool
  | .nan => false
  | .infinite s => s
  | .finite s m _ _ => s && m != 0

def neg : Binary f → Binary f
  | .nan => .nan
  | .infinite s => .infinite !s
  | .finite s m e h => .finite (!s) m e h

/-- The product, rounded. -/
def mul : Binary f → Binary f → Binary f
  | .finite s m e _, .finite s' m' e' _ =>
    let (n, d) := ratio m e
    let (n', d') := ratio m' e'
    ofRatio f (s != s') (n * n') (d * d')
  | .infinite s, .infinite s' => .infinite (s != s')
  | .infinite s, .finite s' m _ _ => if m = 0 then .nan else .infinite (s != s')
  | .finite s m _ _, .infinite s' => if m = 0 then .nan else .infinite (s != s')
  | _, _ => .nan

/-- The quotient, rounded. -/
def div : Binary f → Binary f → Binary f
  | .finite s m e _, .finite s' m' e' _ =>
    if m' = 0 then (if m = 0 then .nan else .infinite (s != s'))
    else
      let (n, d) := ratio m e
      let (n', d') := ratio m' e'
      ofRatio f (s != s') (n * d') (d * n')
  | .infinite s, .finite s' _ _ _ => .infinite (s != s')
  | .finite s _ _ _, .infinite s' => ofRatio f (s != s') 0 1
  | _, _ => .nan

/-- The same number in another format, rounded if that format is narrower. -/
def convert (g : Format) : Binary f → Binary g
  | .nan => .nan
  | .infinite s => .infinite s
  | .finite s m e _ =>
    let (n, d) := ratio m e
    ofRatio g s n d

/-- The greatest integer not above the number, moved to the nearer end when it lies
outside `lo .. hi`. Not-a-number counts as zero. -/
def floorClamped (lo hi : Int) : Binary f → Int
  | .nan => 0
  | .infinite true => lo
  | .infinite false => hi
  | .finite s m e _ =>
    let (n, d) := ratio m e
    let k : Int := (if s then -(n : Int) else n).fdiv d
    max lo (min hi k)

end Binary

end TileAtlas.Number
