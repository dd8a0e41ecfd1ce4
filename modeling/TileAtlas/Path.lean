/-
File paths as they are written.

A path is kept and shown exactly as given; `join`, `parent?` and `extension?` look
through it at its components. Repeated slashes, a trailing slash and a `.` after the
first component do not count as components, so two spellings can denote one path:
`components` is what comparison and ordering go by.
-/

import TileAtlas.Text.Blank

namespace TileAtlas

structure Path where
  text : String
deriving DecidableEq, Repr, Inhabited

namespace Path

instance : Coe String Path := ⟨Path.mk⟩

inductive Component where
  | root
  | here
  | up
  | name (s : String)
deriving DecidableEq, Repr

/-- The place of a component's kind in the order of components. -/
def Component.rank : Component → Nat
  | .root => 0
  | .here => 1
  | .up => 2
  | .name _ => 3

/-- The name of a component, empty for those without one. -/
def Component.label : Component → String
  | .name s => s
  | _ => ""

def isAbsolute (p : Path) : Bool :=
  p.text.toList.head? == some '/'

/-- What stands between the slashes, empty pieces included. -/
def segments (p : Path) : List String :=
  Text.fields '/' p.text

/-- The component a segment after the first stands for, if any. -/
def component? (segment : String) : Option Component :=
  match segment with
  | "" => none
  | "." => none
  | ".." => some .up
  | s => some (.name s)

/-- The steps of a path. Only a leading `.` is kept. -/
def components (p : Path) : List Component :=
  match p.segments with
  | [] => []
  | first :: rest =>
    let start : List Component :=
      if p.isAbsolute then [.root]
      else if first = "." then [.here]
      else (component? first).toList
    start ++ rest.filterMap component?

def compareComponents : List Component → List Component → Ordering
  | [], [] => .eq
  | [], _ :: _ => .lt
  | _ :: _, [] => .gt
  | a :: as, b :: bs =>
    ((compare a.rank b.rank).then (compare a.label b.label)).then (compareComponents as bs)

instance : Ord Path := ⟨fun p q => compareComponents p.components q.components⟩

/-- Spellings of one path. -/
def same (p q : Path) : Bool :=
  p.components == q.components

/-- A path below a directory: an absolute path stays as it is, and a slash is put in
unless the directory is empty or already ends in one. -/
def join (dir p : Path) : Path :=
  if p.isAbsolute then p
  else if dir.text = "" then p
  else if dir.text.toList.getLast? = some '/' then ⟨dir.text ++ p.text⟩
  else ⟨dir.text ++ "/" ++ p.text⟩

/-- Drop the segments at the end that are no component. The list is reversed: the last
segment comes first. The very first segment of the path is kept when it is a leading
`.` or the empty segment before a leading slash. -/
def dropSilent : List String → List String
  | [] => []
  | [s] => [s]
  | s :: t :: rest => if (component? s).isNone then dropSilent (t :: rest) else s :: t :: rest

/-- The text of reversed segments; a lone empty segment is the root. -/
def ofReversed (absolute : Bool) (segs : List String) : Path :=
  if absolute && segs.length ≤ 1 then ⟨"/"⟩
  else ⟨Text.joinWith "/" segs.reverse⟩

/-- The path without its last component; `none` for the root and the empty path. -/
def parent? (p : Path) : Option Path :=
  match p.components.getLast? with
  | none => none
  | some .root => none
  | some _ =>
    match dropSilent p.segments.reverse with
    | [] => none
    | _ :: rest => some (ofReversed p.isAbsolute (dropSilent rest))

/-- The parent, or the empty path where there is none. -/
def directory (p : Path) : Path :=
  p.parent?.getD ⟨""⟩

/-- The last component if it is a name. -/
def fileName? (p : Path) : Option String :=
  match p.components.getLast? with
  | some (.name s) => some s
  | _ => none

/-- What follows the last dot of the file name, unless that dot comes first. -/
def extension? (p : Path) : Option String :=
  p.fileName?.bind fun name =>
    let back := name.toList.reverse
    let ext := back.takeWhile (· != '.')
    match back.dropWhile (· != '.') with
    | _ :: _ :: _ => some (String.ofList ext.reverse)
    | _ => none

/-- Whether the extension is the given one, whatever the case of its ASCII letters. -/
def hasExtension (p : Path) (ext : String) : Bool :=
  p.extension?.any (fun e => Text.lowerAscii e == Text.lowerAscii ext)

end Path

end TileAtlas
