/-
The size of a GIF image: that of the screen its pictures are drawn on.

The signature, the screen and a color table are followed by blocks. Extensions before
the first block of another kind belong to the header and have to be complete.
-/

import TileAtlas.Image.Bytes

namespace TileAtlas.Image.Gif

def signatures : List (List UInt8) :=
  [[0x47, 0x49, 0x46, 0x38, 0x37, 0x61], [0x47, 0x49, 0x46, 0x38, 0x39, 0x61]]

/-- The bytes of the common color table: the highest bit says that there is one and the
lowest three how large it is. -/
def tableSpan (flags : Nat) : Nat :=
  if flags < 128 then 0 else 6 <<< (flags % 8)

/-- Pass over the data of an extension: the size of the whole and what follows. Each part of
it has a byte with its size before it, and a size of zero ends them. -/
def extensionData? : List UInt8 → Option (Nat × List UInt8)
  | [] => none
  | size :: bytes =>
    if size = 0 then some (0, bytes)
    else (extensionData? (bytes.drop size.toNat)).map fun (n, after) => (size.toNat + n, after)
termination_by bytes => bytes.length

/-- What follows an extension is shorter. -/
theorem length_lt_of_extensionData? {n : Nat} {bytes after : List UInt8}
    (h : extensionData? bytes = some (n, after)) : after.length < bytes.length := by
  fun_induction extensionData? bytes generalizing n after with
  | case1 => simp at h
  | case2 bytes =>
    obtain ⟨-, rfl⟩ := Prod.mk.inj (Option.some.inj h)
    simp
  | case3 size bytes _ ih =>
    obtain ⟨⟨m, after'⟩, hrec, heq⟩ := Option.map_eq_some_iff.mp h
    obtain ⟨-, rfl⟩ := Prod.mk.inj heq
    have hlt := ih hrec
    simp only [List.length_drop, List.length_cons] at hlt ⊢
    omega

/-- Whether an extension of a kind may have that much data. The kinds are text, control,
comment and application, and the one that controls how a picture is shown has four bytes
of data. -/
def extensionFits (label : UInt8) (n : Nat) : Bool :=
  match label with
  | 0x01 => true
  | 0xF9 => n == 4
  | 0xFE => true
  | 0xFF => true
  | _ => false

/-- Whether the header comes to its end: extensions, then a block of another kind and
something more. The end mark needs nothing more if it follows an extension. -/
def headerEnds (afterExtension : Bool) : List UInt8 → Bool
  | 0x21 :: label :: bytes =>
    match _h : extensionData? bytes with
    | none => false
    | some (n, after) => extensionFits label n && headerEnds true after
  | kind :: rest => kind != 0x21 && (!rest.isEmpty || afterExtension && kind == 0x3B)
  | [] => false
termination_by bytes => bytes.length
decreasing_by
  have := length_lt_of_extensionData? ‹_›
  simp only [List.length_cons]
  omega

def size? (bytes : List UInt8) : Option Size := do
  let first ← slice? bytes 0 6
  let width ← little? bytes 6 2
  let height ← little? bytes 8 2
  let flags ← little? bytes 10 1
  if first ∈ signatures ∧ headerEnds false (bytes.drop (13 + tableSpan flags)) then
    return ⟨width, height⟩
  else none

end TileAtlas.Image.Gif
