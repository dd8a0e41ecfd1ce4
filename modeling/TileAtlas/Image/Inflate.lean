/-
Compressed data, and the bytes it stands for.

The data is a stream of bits in blocks. A block holds bytes as they are or a sequence of
symbols in a prefix code, each of which is a byte or a copy of bytes that came before. A
header of two bytes goes before the blocks and a checksum of the bytes after them.
-/

import TileAtlas.Image.Bytes

namespace TileAtlas.Image.Inflate

/-! ### Bits -/

abbrev Bits := List Bool

/-- The bits of some bytes, the lowest of each first. -/
def bitsOf (bytes : List UInt8) : Bits :=
  bytes.flatMap fun b => (List.range 8).map b.toNat.testBit

/-- A number from its bits, the lowest first. -/
def value : Bits → Nat
  | [] => 0
  | b :: bits => b.toNat + 2 * value bits

def number? (n : Nat) (bits : Bits) : Option (Nat × Bits) :=
  if n ≤ bits.length then some (value (bits.take n), bits.drop n) else none

def numbers? (n : Nat) : (count : Nat) → Bits → Option (List Nat × Bits)
  | 0, bits => some ([], bits)
  | count + 1, bits => do
    let (first, bits) ← number? n bits
    let (rest, bits) ← numbers? n count bits
    return (first :: rest, bits)

def align (bits : Bits) : Bits :=
  bits.drop (bits.length % 8)

/-! ### Prefix codes -/

/-- A prefix code: for each length of code words, from one on, the symbols with words of
that length in order. The words of a length follow those of the shorter ones. -/
abbrev Code := List (List Nat)

/-- The code that gives each symbol a word of a length; zero stands for no word. -/
def Code.ofLengths (lengths : List Nat) : Code :=
  (List.range 15).map fun n => (lengths.zipIdx.filter (·.1 == n + 1)).map (·.2)

/-- The next symbol, and what follows, given the bits of its word so far and the first
word of that length. -/
def Code.symbol? : (code : Code) → (word first : Nat) → Bits → Option (Nat × Bits)
  | group :: code, word, first, b :: bits =>
    let word := 2 * word + b.toNat
    if word < first + group.length then (group[word - first]?).map (·, bits)
    else symbol? code word (2 * (first + group.length)) bits
  | _, _, _, _ => none

/-- The codes of a block: one for bytes and the lengths of copies, one for how far back the
copies start. -/
structure Codes where
  main : Code
  distance : Code

/-- The codes of a block that brings none. -/
def Codes.fixed : Codes where
  main := .ofLengths (List.replicate 144 8 ++ List.replicate 112 9 ++ List.replicate 24 7 ++
    List.replicate 8 8)
  distance := .ofLengths (List.replicate 30 5)

/-- The order in which the lengths of the words for lengths are given. -/
def lengthOrder : List Nat := [16, 17, 18, 0, 8, 7, 9, 6, 10, 5, 11, 4, 12, 3, 13, 2, 14, 1, 15]

/-- `count` lengths of code words. Some symbols repeat the length before or stand for a run
of zeros. -/
def lengths? (code : Code) (count : Nat) : (fuel : Nat) → (done : List Nat) → Bits →
    Option (List Nat × Bits)
  | fuel, done, bits =>
    if done.length = count then some (done, bits)
    else if count < done.length then none
    else
      match fuel with
      | 0 => none
      | fuel + 1 => do
        let (symbol, bits) ← code.symbol? 0 0 bits
        match symbol with
        | 16 =>
          let last ← done.getLast?
          let (n, bits) ← number? 2 bits
          lengths? code count fuel (done ++ List.replicate (3 + n) last) bits
        | 17 =>
          let (n, bits) ← number? 3 bits
          lengths? code count fuel (done ++ List.replicate (3 + n) 0) bits
        | 18 =>
          let (n, bits) ← number? 7 bits
          lengths? code count fuel (done ++ List.replicate (11 + n) 0) bits
        | n => lengths? code count fuel (done ++ [n]) bits

def Codes.read? (bits : Bits) : Option (Codes × Bits) := do
  let (mainCount, bits) ← number? 5 bits
  let (distanceCount, bits) ← number? 5 bits
  let (count, bits) ← number? 4 bits
  let (given, bits) ← numbers? 3 (count + 4) bits
  let pairs := lengthOrder.zip given
  let code := Code.ofLengths ((List.range 19).map fun n => (pairs.lookup n).getD 0)
  let total := mainCount + 257 + (distanceCount + 1)
  let (lengths, bits) ← lengths? code total total [] bits
  let main := lengths.take (mainCount + 257)
  let distance := lengths.drop (mainCount + 257)
  if main.length ≤ 286 ∧ distance.length ≤ 30 then
    return (⟨.ofLengths main, .ofLengths distance⟩, bits)
  else none

/-! ### Blocks -/

/-- The lengths of copies: a base, and the number of bits to add. -/
def copyLengths : List (Nat × Nat) :=
  [(3, 0), (4, 0), (5, 0), (6, 0), (7, 0), (8, 0), (9, 0), (10, 0), (11, 1), (13, 1), (15, 1),
   (17, 1), (19, 2), (23, 2), (27, 2), (31, 2), (35, 3), (43, 3), (51, 3), (59, 3), (67, 4),
   (83, 4), (99, 4), (115, 4), (131, 5), (163, 5), (195, 5), (227, 5), (258, 0)]

/-- How far back copies start: a base, and the number of bits to add. -/
def copyDistances : List (Nat × Nat) :=
  [(1, 0), (2, 0), (3, 0), (4, 0), (5, 1), (7, 1), (9, 2), (13, 2), (17, 3), (25, 3), (33, 4),
   (49, 4), (65, 5), (97, 5), (129, 6), (193, 6), (257, 7), (385, 7), (513, 8), (769, 8),
   (1025, 9), (1537, 9), (2049, 10), (3073, 10), (4097, 11), (6145, 11), (8193, 12), (12289, 12),
   (16385, 13), (24577, 13)]

/-- A number given by its place in a table and the bits that come next, and what follows. -/
def scaled? (table : List (Nat × Nat)) (place : Nat) (bits : Bits) : Option (Nat × Bits) := do
  let (base, extra) ← table[place]?
  let (more, bits) ← number? extra bits
  return (base + more, bits)

/-- Copy bytes one after another from a distance back. -/
def copy (distance : Nat) (out : Array UInt8) : (length : Nat) → Array UInt8
  | 0 => out
  | length + 1 => copy distance (out.push (out[out.size - distance]?.getD 0)) length

/-- Go through the symbols of a block to its end. There are no more of them than bits. -/
def symbols? (codes : Codes) : (fuel : Nat) → Array UInt8 → Bits → Option (Array UInt8 × Bits)
  | 0, _, _ => none
  | fuel + 1, out, bits => do
    let (symbol, bits) ← codes.main.symbol? 0 0 bits
    if symbol < 256 then symbols? codes fuel (out.push (UInt8.ofNat symbol)) bits
    else if symbol = 256 then return (out, bits)
    else
      let (length, bits) ← scaled? copyLengths (symbol - 257) bits
      let (place, bits) ← codes.distance.symbol? 0 0 bits
      let (distance, bits) ← scaled? copyDistances place bits
      if distance ≤ out.size then symbols? codes fuel (copy distance out length) bits else none

/-- Bytes as they are: their number, the same with all bits turned over, then they
themselves. -/
def stored? (out : Array UInt8) (bits : Bits) : Option (Array UInt8 × Bits) := do
  let (length, bits) ← number? 16 (align bits)
  let (turned, bits) ← number? 16 bits
  let (bytes, bits) ← numbers? 8 length bits
  if length + turned = 0xFFFF then return (out ++ (bytes.map UInt8.ofNat).toArray, bits) else none

/-- Go through the blocks to the last. There are no more of them than bits. -/
def blocks? : (fuel : Nat) → Array UInt8 → Bits → Option (Array UInt8 × Bits)
  | 0, _, _ => none
  | fuel + 1, out, bits => do
    let (last, bits) ← number? 1 bits
    let (kind, bits) ← number? 2 bits
    let (out, bits) ←
      match kind with
      | 0 => stored? out bits
      | 1 => symbols? .fixed bits.length out bits
      | 2 => do
        let (codes, bits) ← Codes.read? bits
        symbols? codes bits.length out bits
      | _ => none
    if last = 1 then return (out, bits) else blocks? fuel out bits

/-! ### Streams -/

/-- The checksum of some bytes: two sums, the second one of all values of the first. -/
def checksum (bytes : List UInt8) : Nat :=
  let sums := bytes.foldl (fun (a, b) c => ((a + c.toNat) % 65521, (b + a + c.toNat) % 65521)) (1, 0)
  65536 * sums.2 + sums.1

/-- Whether two bytes say that blocks of this kind follow. -/
def headerFits (method flags : Nat) : Bool :=
  method % 16 == 8 && method < 128 && flags / 32 % 2 == 0 && (256 * method + flags) % 31 == 0

def bytes? (stream : List UInt8) : Option (List UInt8) := do
  let (method, bits) ← number? 8 (bitsOf stream)
  let (flags, bits) ← number? 8 bits
  let (out, bits) ← blocks? bits.length #[] bits
  let (sum, _) ← numbers? 8 4 (align bits)
  if headerFits method flags ∧ bigEndian (sum.map UInt8.ofNat) = checksum out.toList then
    return out.toList
  else none

end TileAtlas.Image.Inflate
