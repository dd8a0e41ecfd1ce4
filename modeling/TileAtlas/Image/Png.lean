/-
The size of a PNG image.

A file is a signature and a sequence of chunks, each with a length, a name, a body and a
checksum of name and body. The first chunk is the header, which holds the size. The
chunks up to the pixel data have to be in order as well, and what they ask to be kept
must leave enough memory for a row of pixels.

A reader may skip a chunk whose name starts with a small letter, so most of them cannot
do harm. The exceptions are those of animations: a description of a frame has to be
right, and the data of a frame must not come without one.
-/

import TileAtlas.Image.Inflate

namespace TileAtlas.Image.Png

def signature : List UInt8 := [0x89, 0x50, 0x4E, 0x47, 0x0D, 0x0A, 0x1A, 0x0A]

/-! ### Checksums -/

/-- Move a remainder down by one bit. -/
def shift (c : UInt32) : UInt32 :=
  if c &&& 1 = 1 then (c >>> 1) ^^^ 0xEDB88320 else c >>> 1

def addByte (c : UInt32) (b : UInt8) : UInt32 :=
  Nat.repeat shift 8 (c ^^^ b.toUInt32)

def checksum (bytes : List UInt8) : UInt32 :=
  bytes.foldl addByte 0xFFFFFFFF ^^^ 0xFFFFFFFF

/-! ### Chunks -/

structure Chunk where
  name : String
  body : List UInt8
  sound : Bool
deriving DecidableEq, Repr

def nameOf (letters : List UInt8) : String :=
  String.ofList (letters.map fun b => Char.ofNat b.toNat)

def name? (bytes : List UInt8) : Option String :=
  (slice? bytes 4 4).map nameOf

def Chunk.read? (bytes : List UInt8) : Option Chunk := do
  let length ← big? bytes 0 4
  let letters ← slice? bytes 4 4
  let body ← slice? bytes 8 length
  let sum ← big? bytes (8 + length) 4
  return ⟨nameOf letters, body, (checksum (letters ++ body)).toNat == sum⟩

def Chunk.span (c : Chunk) : Nat := 12 + c.body.length

/-- What follows a chunk is shorter. -/
theorem length_drop_span_lt {bytes : List UInt8} {c : Chunk} (h : Chunk.read? bytes = some c) :
    (bytes.drop c.span).length < bytes.length := by
  cases bytes with
  | nil => simp [Chunk.read?, big?, slice?] at h
  | cons b rest => simp only [List.length_drop, List.length_cons, Chunk.span]; omega

/-- A reader may skip a chunk whose name starts with a small letter. -/
def Chunk.isAncillary (c : Chunk) : Bool :=
  c.name.toList.head?.any fun l => l.toNat / 32 % 2 == 1

/-! ### The header -/

inductive Color where
  | gray
  | rgb
  | indexed
  | grayAlpha
  | rgbAlpha
deriving DecidableEq, Repr

def Color.ofCode? : Nat → Option Color
  | 0 => some .gray
  | 2 => some .rgb
  | 3 => some .indexed
  | 4 => some .grayAlpha
  | 6 => some .rgbAlpha
  | _ => none

def Color.depths : Color → List Nat
  | .gray => [1, 2, 4, 8, 16]
  | .indexed => [1, 2, 4, 8]
  | _ => [8, 16]

/-- The samples that the file has of each kind of color. Indexed colors count as what they
stand for. -/
def Color.samples : Color → Nat
  | .gray => 1
  | .rgb => 3
  | .indexed => 3
  | .grayAlpha => 2
  | .rgbAlpha => 4

structure Header where
  size : Size
  depth : Nat
  color : Color
deriving DecidableEq, Repr

/-- The header in the body of a chunk. There has to be at least one pixel, of a known
kind. -/
def Header.read? (body : List UInt8) : Option Header := do
  let width ← big? body 0 4
  let height ← big? body 4 4
  let depth ← big? body 8 1
  let color ← (big? body 9 1).bind Color.ofCode?
  let methods ← slice? body 10 2
  let interlacing ← big? body 12 1
  if body.length = 13 ∧ 0 < width ∧ 0 < height ∧ depth ∈ color.depths ∧ methods = [0, 0] ∧
      interlacing ≤ 1 then
    return ⟨⟨width, height⟩, depth, color⟩
  else none

/-- The bytes of a row of pixels: a sample takes at least one, and transparency adds a
sample. -/
def Header.rowSpan (h : Header) (transparent : Bool) : Nat :=
  h.size.width * (h.color.samples + if transparent then 1 else 0) * (if h.depth = 16 then 2 else 1)

/-! ### The chunks before the pixels -/

def memoryLimit : Nat := 0x20000000

/-- What the chunks before the pixels have brought so far. -/
structure Progress where
  /-- The memory taken. -/
  taken : Nat
  /-- The room for the body of a chunk. -/
  room : Nat
  hasPalette : Bool
  hasTransparency : Bool
  hasDepths : Bool
  hasDetails : Bool
  hasProfile : Bool
  /-- The number of frames described. -/
  frames : Nat
deriving DecidableEq, Repr

namespace Progress

/-- The state before the first chunk. -/
def start : Progress := ⟨0, 128, false, false, false, false, false, 0⟩

/-- Take memory for something to be kept. -/
def keep (s : Progress) (n : Nat) : Progress := { s with taken := s.taken + n }

/-- Hold the body of a chunk: the room is doubled until it is large enough, and more room
is taken from the memory. -/
def hold (s : Progress) (n : Nat) : Progress :=
  let room := max s.room (128 * Nat.nextPowerOfTwo ((n + 127) / 128))
  { s with taken := s.taken + (room - s.room), room }

/-- Whether the transparency of a picture makes sense. -/
def transparencyFits (h : Header) (s : Progress) (body : List UInt8) : Bool :=
  match h.color with
  | .gray => 2 ≤ body.length
  | .rgb => 6 ≤ body.length
  | .indexed => s.hasPalette
  | _ => false

/-- Whether the significant bits of the samples make sense. -/
def depthsFit (h : Header) (body : List UInt8) : Bool :=
  let depth := if h.color = .indexed then 8 else h.depth
  body.length == h.color.samples && body.all fun b => 1 ≤ b.toNat && b.toNat ≤ depth

/-- Whether the description of a frame is that of the whole picture, and in its turn. -/
def frameFits (h : Header) (s : Progress) (body : List UInt8) : Bool :=
  big? body 0 4 == some s.frames && big? body 4 4 == some h.size.width &&
    big? body 8 4 == some h.size.height && slice? body 12 8 == some (List.replicate 8 0) &&
    (big? body 24 1).any (· ≤ 2) && (big? body 25 1).any (· ≤ 1)

/-- The size of a color profile: a name that ends in a zero, a method, which has to be zero,
and compressed data. -/
def profileSize? (body : List UInt8) : Option Nat :=
  let name := body.takeWhile (· != 0)
  match body.drop (name.length + 1) with
  | 0 :: stream =>
    if 1 ≤ name.length ∧ name.length ≤ 80 then (Inflate.bytes? stream).map List.length else none
  | _ => none

/-- What a sound chunk brings; `none` if it does harm. -/
def add? (h : Header) (s : Progress) (c : Chunk) : Option Progress :=
  let kept := s.keep c.body.length
  match c.name with
  | "PLTE" => if s.hasPalette then none else some { kept with hasPalette := true }
  | "tRNS" =>
    if s.hasTransparency then some s
    else some { kept with hasTransparency := s.transparencyFits h c.body }
  | "sBIT" =>
    if s.hasPalette || s.hasDepths then some s
    else some { kept with hasDepths := depthsFit h c.body }
  | "eXIf" => if s.hasDetails then some s else some { kept with hasDetails := true }
  | "iCCP" =>
    if s.hasProfile then some s
    else some { s.keep ((profileSize? c.body).getD 0) with hasProfile := true }
  | "tEXt" => some kept
  | "zTXt" => some kept
  | "iTXt" => some kept
  | "fcTL" => if s.frameFits h c.body then some { s with frames := s.frames + 1 } else none
  | _ => some s

/-- Whether a body has a length that goes with the name. -/
def lengthFits (name : String) (n : Nat) : Bool :=
  match name with
  | "PLTE" => 3 ≤ n && n ≤ 768
  | "tRNS" => 1 ≤ n && n ≤ 256
  | "sBIT" => 1 ≤ n && n ≤ 4
  | "fcTL" => n == 26
  | _ => true

/-- The names of the chunks whose body is held. -/
def heldNames : List String :=
  ["PLTE", "tRNS", "sBIT", "eXIf", "iCCP", "tEXt", "zTXt", "iTXt", "fcTL"]

/-- What one more chunk brings; `none` if it does harm. Only a chunk that may be skipped may
have a wrong checksum or, the description of a frame apart, a wrong length. -/
def next? (h : Header) (s : Progress) (c : Chunk) : Option Progress :=
  if !c.isAncillary && c.name != "PLTE" then none
  else if !lengthFits c.name c.body.length then
    if c.isAncillary && c.name != "fcTL" then some s else none
  else
    let held := if c.name ∈ heldNames then s.hold c.body.length else s
    if c.sound then held.add? h c else if c.isAncillary then some held else none

end Progress

/-- Go through the chunks up to the pixel data. The data of a frame will do if the frame is
described. -/
def pixels? (h : Header) (s : Progress) (bytes : List UInt8) : Option Progress :=
  if name? bytes = some "IDAT" then some s
  else if name? bytes = some "fdAT" then
    if 0 < s.frames && (big? bytes 0 4).any (4 ≤ ·) then some s else none
  else
    match _h : Chunk.read? bytes with
    | none => none
    | some c => (s.next? h c).bind fun s => pixels? h s (bytes.drop c.span)
termination_by bytes.length
decreasing_by exact length_drop_span_lt ‹_›

def size? (bytes : List UInt8) : Option Size := do
  let first ← slice? bytes 0 8
  let chunk ← Chunk.read? (bytes.drop 8)
  let header ← Header.read? chunk.body
  let s ← pixels? header .start (bytes.drop (8 + chunk.span))
  if first = signature ∧ chunk.name = "IHDR" ∧ chunk.sound ∧
      s.taken + header.rowSpan s.hasTransparency ≤ memoryLimit then
    return header.size
  else none

end TileAtlas.Image.Png
