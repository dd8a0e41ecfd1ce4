/-
File trees without links, and the snapshot each of them is.

A path is followed step by step from the root or from the working directory. Every step
but the first has to start in a directory, so `a/../b` needs `a` to be one.
-/

import TileAtlas.Disk

namespace TileAtlas.Disk

inductive Tree where
  | file (bytes : ByteArray)
  | directory (entries : List (String × Tree))

namespace Tree

def empty : Tree := .directory []

def entries : Tree → List (String × Tree)
  | .directory es => es
  | .file _ => []

/-- What is below a tree under a list of names. -/
def at? : Tree → List String → Option Tree
  | t, [] => some t
  | t, n :: ns => (t.entries.lookup n).bind (fun s => s.at? ns)

/-- The first entry of a name replaced, or a new entry at the end. -/
def setEntry (name : String) (t : Tree) : List (String × Tree) → List (String × Tree)
  | [] => [(name, t)]
  | e :: es => if e.1 = name then (name, t) :: es else e :: setEntry name t es

/-- Put a tree under a list of names, making the directories on the way. An empty
directory does not replace one that is there. -/
def put (leaf : Tree) : List String → Tree → Tree
  | [], t =>
    match leaf, t with
    | .directory [], .directory es => .directory es
    | leaf, _ => leaf
  | n :: ns, t =>
    let below := (t.entries.lookup n).getD empty
    .directory (setEntry n (put leaf ns below) t.entries)

def names (p : Path) : List String :=
  p.segments.filter (fun s => s != "" && s != ".")

/-- The tree of a list of files. A path without content is an empty directory. -/
def ofFiles (files : List (Path × Option ByteArray)) : Tree :=
  files.foldl (fun t f => put ((f.2.map .file).getD empty) (names f.1) t) empty

def pathOf (names : List String) : Path :=
  ⟨"/" ++ Text.joinWith "/" names⟩

/-- Follow one segment of a path from the place reached so far. -/
def follow (root : Tree) (here : List String) (segment : String) : Except Error (List String) :=
  match root.at? here with
  | none => .error .notFound
  | some (.file _) => .error .notDirectory
  | some (.directory es) =>
    match segment with
    | "" => .ok here
    | "." => .ok here
    | ".." => .ok here.dropLast
    | name =>
      if nameLimit < name.utf8ByteSize then .error .nameTooLong
      else if (es.lookup name).isSome then .ok (here ++ [name])
      else .error .notFound

/-- The place a path leads to, from the root or from the working directory. -/
def walk (root : Tree) (working : List String) (p : Path) : Except Error (List String) :=
  match refusal? p with
  | some cause => .error cause
  | none => p.segments.foldlM (follow root) (if p.isAbsolute then [] else working)

/-- What a look-up shows of a tree. Everything in it can be opened. -/
def content : Tree → Content
  | .file bytes => .file (.ok bytes)
  | .directory es => .directory (.ok (es.map (·.1)))

def disk (root : Tree) (working : List String) : Disk where
  find p :=
    (root.walk working p).bind fun names =>
      match root.at? names with
      | some t => .ok ⟨pathOf names, t.content⟩
      | none => .error .notFound

end Tree

end TileAtlas.Disk
