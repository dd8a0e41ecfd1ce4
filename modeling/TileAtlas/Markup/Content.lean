/-
Character data: references, line ends, and attribute values.

Raw character data is first cut into pieces, each a character that was written
literally or one that was given by a reference. Line ends are then made uniform among
the literal characters; what a reference gives is never changed.
-/

import TileAtlas.Markup.Chars
import TileAtlas.Text.Numeral

namespace TileAtlas.Markup

/-- A character of character data and how it was written. -/
inductive Piece where
  | literal (c : Char)
  | reference (c : Char)
deriving DecidableEq, Repr

/-- The character with a number; a number that is no character gives the replacement
character. -/
def charOfNumber (n : Nat) : Char :=
  if h : n.isValidChar then Char.ofNatAux n h else '\uFFFD'

/-- The character that a reference names, given what stands between `&` and `;`. -/
def referenced? (body : List Char) : Option Char :=
  let number? (n : Option Nat) : Option Char :=
    ((n.bind (Text.below? UInt32.size)).map charOfNumber).filter isAllowed
  match body with
  | '#' :: 'x' :: ds => number? (Text.hexDigits? ds)
  | '#' :: ds => number? (Text.digits? ds)
  | name =>
    match String.ofList name with
    | "lt" => some '<'
    | "gt" => some '>'
    | "amp" => some '&'
    | "apos" => some '\''
    | "quot" => some '"'
    | _ => none

/-- The pieces of raw character data; `none` if a reference is malformed or unknown.
The counter says how many characters belong to a reference that was already read. -/
def piecesFrom? : Nat → List Char → Option (List Piece)
  | _, [] => some []
  | skip + 1, _ :: cs => piecesFrom? skip cs
  | 0, c :: cs =>
    if c = '&' then
      let body := cs.takeWhile (· != ';')
      if body.length < cs.length then
        (referenced? body).bind fun r =>
          (piecesFrom? (body.length + 1) cs).map (.reference r :: ·)
      else none
    else (piecesFrom? 0 cs).map (.literal c :: ·)

def pieces? (raw : List Char) : Option (List Piece) :=
  piecesFrom? 0 raw

/-- Make line ends uniform: a literal carriage return, alone or with the line feed after
it, becomes one line feed. It is left alone right before a reference, and at the end of
the text if a reference comes right before it (`afterReference`). -/
def uniformLineEnds (afterReference : Bool) : List Piece → List Char
  | [] => []
  | .reference c :: ps => c :: uniformLineEnds true ps
  | .literal c :: ps =>
    if c = '\r' then
      match ps with
      | [] => [if afterReference then '\r' else '\n']
      | .reference d :: ps => '\r' :: d :: uniformLineEnds true ps
      | .literal d :: ps' =>
        if d = '\n' then '\n' :: uniformLineEnds false ps'
        else '\n' :: uniformLineEnds false (.literal d :: ps')
    else c :: uniformLineEnds false ps
termination_by ps => ps.length

def textContent? (raw : List Char) : Option String :=
  (pieces? raw).map (fun ps => String.ofList (uniformLineEnds false ps))

/-- The text of a section in which nothing is a reference. -/
def sectionContent (raw : List Char) : String :=
  String.ofList (uniformLineEnds false (raw.map .literal))

/-- Attribute values have no line structure: a literal tab, line feed or carriage return
is a space, and a carriage return with a line feed is a single one. -/
def flattened : List Piece → List Char
  | [] => []
  | .reference c :: ps => c :: flattened ps
  | .literal c :: ps =>
    if c = '\r' ∧ ps.head? = some (.literal '\n') then flattened ps
    else (if isSpace c then ' ' else c) :: flattened ps

def attributeContent? (raw : List Char) : Option String :=
  (pieces? raw).map (fun ps => String.ofList (flattened ps))

end TileAtlas.Markup
