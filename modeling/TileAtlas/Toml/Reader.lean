/-
Reading TOML documents.

A document is a sequence of lines: key and value pairs, table headers, comments. The
pairs after a header belong to its table. Keys and values nest only so deep.
-/

import TileAtlas.Toml.Basic
import TileAtlas.Toml.Lexical

namespace TileAtlas.Toml

def ofScalar? (cs : List Char) : Option Toml :=
  if cs = "true".toList then some (.flag true)
  else if cs = "false".toList then some (.flag false)
  else if isInteger cs || isFloat cs then some .number
  else if isMoment cs then some .moment
  else none

/-- How many lists and inline tables may be around a value, and how many parts a key may
have. -/
def maxDepth : Nat := 79

/-- The last part of a key and the path before it. -/
def splitKey? (parts : List String) : Option (List String × String) :=
  if parts.length ≤ maxDepth then parts.getLast?.map (fun key => (parts.dropLast, key)) else none

def addPair? (es : Entries) (pair : List String × Toml) : Option Entries := do
  let (path, key) ← splitKey? pair.1
  addKey? key pair.2 path es

mutual

/-- A value and what follows it, with room for `room` levels inside. -/
def value? (room : Nat) : Nat → List Char → Option (Toml × List Char)
  | 0, _ => none
  | fuel + 1, cs =>
    match room, cs with
    | room + 1, '[' :: rest => (items? room fuel rest).map fun r => (.list r.1, r.2)
    | room + 1, '\x7b' :: rest => do
      let (pairs, rest) ←
        match skipBlanks rest with
        | '\x7d' :: rest => some ([], rest)
        | rest => pairs? room fuel rest
      let entries ← pairs.foldlM addPair? []
      return (.table .inline entries, rest)
    | _, '"' :: _ => (string? cs).map fun r => (.text (String.ofList r.1), r.2)
    | _, '\'' :: _ => (string? cs).map fun r => (.text (String.ofList r.1), r.2)
    | _, _ => do
      let (run, rest) ← scalar? cs
      let v ← ofScalar? run
      return (v, rest)

/-- The items of a list after its opening bracket. Lines may be broken between them, and
a comma may follow the last one. -/
def items? (room : Nat) : Nat → List Char → Option (List Toml × List Char)
  | 0, _ => none
  | fuel + 1, cs =>
    match skipLines cs.length cs with
    | ']' :: rest => some ([], rest)
    | cs => do
      let (item, rest) ← value? room fuel cs
      match skipLines rest.length rest with
      | ']' :: rest => return ([item], rest)
      | ',' :: rest =>
        let (others, rest) ← items? room fuel rest
        return (item :: others, rest)
      | _ => none

/-- The pairs of an inline table from the first one on. -/
def pairs? (room : Nat) : Nat → List Char → Option (List (List String × Toml) × List Char)
  | 0, _ => none
  | fuel + 1, cs => do
    let (parts, rest) ← key? (cs.length + 1) cs
    let rest ← mark? '=' rest
    let (v, rest) ← value? room fuel (skipBlanks rest)
    match skipBlanks rest with
    | '\x7d' :: rest => return ([(parts, v)], rest)
    | ',' :: rest =>
      let (others, rest) ← pairs? room fuel rest
      return ((parts, v) :: others, rest)
    | _ => none

end

/-- A document while it is read: all tables so far, and the path of the one that pairs
are added to. -/
structure State where
  root : Entries
  path : List String

def header? (define? : String → Entries → Option Entries) (s : State) (cs : List Char) :
    Option (State × List Char) := do
  let (parts, rest) ← key? (cs.length + 1) cs
  let (path, key) ← splitKey? parts
  let root ← descend? (define? key) path s.root
  return (⟨root, parts⟩, rest)

def pair? (s : State) (cs : List Char) : Option (State × List Char) := do
  let (parts, rest) ← key? (cs.length + 1) cs
  let rest ← mark? '=' rest
  let rest := skipBlanks rest
  let (v, rest) ← value? maxDepth (rest.length + 1) rest
  let root ← descend? (fun es => addPair? es (parts, v)) s.path s.root
  return ({ s with root := root }, rest)

/-- Read one statement up to, but not including, the end of its line. -/
def statement? (s : State) (cs : List Char) : Option (State × List Char) :=
  match cs with
  | '[' :: '[' :: cs => do
    let (s, rest) ← header? defineItem? s cs
    return (s, ← mark? ']' (← mark? ']' rest))
  | '[' :: cs => do
    let (s, rest) ← header? defineTable? s cs
    return (s, ← mark? ']' rest)
  | cs => pair? s cs

def lines? : Nat → State → List Char → Option State
  | 0, _, _ => none
  | fuel + 1, s, cs =>
    match skipLines cs.length cs with
    | [] => some s
    | cs => do
      let (s, rest) ← statement? s cs
      let rest ← restOfLine? rest
      lines? fuel s rest

/-- Read a document; `none` if it is not valid. A byte order mark may come first. -/
def parse? (text : String) : Option Entries :=
  let cs := text.toList
  let cs :=
    match cs with
    | '\uFEFF' :: rest => rest
    | cs => cs
  (lines? (cs.length + 1) ⟨[], []⟩ cs).map (·.root)

end TileAtlas.Toml
