/-
The size of a JPEG image.

A file is a sequence of segments. A segment starts at a marker, which is a byte of 255
and a code; bytes of 255 before the code only fill. The frame header holds the size, and
all segments up to the start of the first scan have to be in order.
-/

import TileAtlas.Image.Bytes

namespace TileAtlas.Image.Jpeg

/-- What a frame header says: the size and the names of the components. -/
structure Frame where
  size : Size
  components : List UInt8
deriving DecidableEq, Repr

/-! ### Tables -/

/-- Whether a segment holds nothing but quantization tables. -/
def quantizersFit : List UInt8 → Bool
  | [] => true
  | info :: rest =>
    let span := if info < 16 then 64 else 128
    info < 32 && info % 16 < 4 && span ≤ rest.length && quantizersFit (rest.drop span)
termination_by bytes => bytes.length

/-- Whether there are enough codes, given how many there are of each length: the codes of
a length follow those of the shorter ones, and none of them is all ones. -/
def codesFit : (next limit : Nat) → List Nat → Bool
  | _, _, [] => true
  | next, limit, n :: counts =>
    next + n < limit && codesFit (2 * (next + n)) (2 * limit) counts

/-- Whether a segment holds nothing but Huffman tables. Those of the first class have
symbols below sixteen. -/
def huffmanFit : List UInt8 → Bool
  | [] => true
  | info :: rest =>
    let counts := (rest.take 16).map UInt8.toNat
    let total := counts.foldl (· + ·) 0
    let symbols := (rest.drop 16).take total
    info < 32 && info % 16 < 4 && 16 ≤ rest.length && total ≤ 256 && symbols.length == total &&
      codesFit 0 2 counts && (16 ≤ info || symbols.all (· < 16)) &&
      huffmanFit ((rest.drop 16).drop total)
termination_by bytes => bytes.length

/-- Whether the note on colors that some programs leave is long enough and names one of
the three known ways to code them. -/
def colorNoteFits (body : List UInt8) : Bool :=
  12 ≤ body.length &&
    (body.take 5 != [0x41, 0x64, 0x6F, 0x62, 0x65] || (body.drop 11).head?.any (· < 3))

/-! ### Headers -/

/-- The components in groups of three bytes: name, sampling, quantization table. Sampling
is one, two or four in each direction. -/
def components? : List UInt8 → Option (List UInt8)
  | [] => some []
  | name :: sampling :: table :: rest =>
    if sampling / 16 ∈ [1, 2, 4] ∧ sampling % 16 ∈ [1, 2, 4] ∧ table < 4 then
      (components? rest).map (name :: ·)
    else none
  | _ => none

/-- The frame that a frame header describes: eight bits a sample, at least one pixel, and
one to four components. -/
def frame? (body : List UInt8) : Option Frame := do
  let depth ← big? body 0 1
  let height ← big? body 1 2
  let width ← big? body 3 2
  let count ← big? body 5 1
  let components ← components? (body.drop 6)
  if depth = 8 ∧ 0 < width ∧ 0 < height ∧ components.length = count ∧ 1 ≤ count ∧ count ≤ 4 then
    return ⟨⟨width, height⟩, components⟩
  else none

def scanNames : List UInt8 → List UInt8
  | name :: _ :: rest => name :: scanNames rest
  | _ => []

/-- Whether a scan header goes with a frame: it lists one to four of the frame's
components, none of them twice, and its ranges are sensible. -/
def scanFits (frame : Frame) (body : List UInt8) : Bool :=
  match body with
  | [] => false
  | count :: rest =>
    let names := scanNames (rest.take (2 * count.toNat))
    1 ≤ count && count ≤ 4 && rest.length == 2 * count.toNat + 3 &&
      names.all frame.components.contains && decide names.Nodup &&
      match rest.drop (2 * count.toNat) with
      | [first, last, steps] => first < 64 && last < 64 && steps / 16 < 14 && steps % 16 < 14
      | _ => false

/-! ### Segments -/

/-- The body of the segment that some bytes start with: a length that counts itself comes
first. -/
def body? (bytes : List UInt8) : Option (List UInt8) := do
  let length ← big? bytes 0 2
  if 2 ≤ length then slice? bytes 2 (length - 2) else none

/-- The bytes passed over for the body of a segment. The first kind of application data is
looked at five bytes at once if there are more than three. -/
def bodySpan (code : UInt8) (length : Nat) : Nat :=
  if code = 0xE0 ∧ length = 4 then 5 else length

/-- What is known of the frame after one more segment before the scan. A second frame, an
early end, and tables that do not fit are refused; unknown segments are passed over. -/
def segment? (known : Option Frame) (code : UInt8) (body : List UInt8) : Option (Option Frame) :=
  if code = 0xC0 ∨ code = 0xC1 ∨ code = 0xC2 then
    if known.isSome then none else (frame? body).map some
  else
    let fits :=
      match code with
      | 0xC4 => huffmanFit body
      | 0xDB => quantizersFit body
      | 0xDD => body.length == 2
      | 0xEE => colorNoteFits body
      | 0xCC => false
      | 0xD9 => false
      | 0xDC => false
      | _ => true
    if fits then some known else none

/-- Go through the segments up to the start of the scan. What stands between two segments
is passed over. -/
def headers? (known : Option Frame) : List UInt8 → Option Frame
  | 0xFF :: code :: rest =>
    if code = 0xFF then headers? known (0xFF :: rest)
    else if code = 0 then headers? known rest
    else do
      let body ← body? rest
      if code = 0xDA then known.filter (scanFits · body)
      else headers? (← segment? known code body) (rest.drop (2 + bodySpan code body.length))
  | _ :: rest => headers? known rest
  | [] => none
termination_by bytes => bytes.length

def size? : List UInt8 → Option Size
  | 0xFF :: 0xD8 :: rest => (headers? none rest).map (·.size)
  | _ => none

end TileAtlas.Image.Jpeg
