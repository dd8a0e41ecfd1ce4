/-
TOML documents: nested tables, and the rules for defining them.

A table is made by a header, by the path of a header further in, by a dotted key, or
inline. How it was made decides what may still be added to it: a header may define a
table that so far was only passed through, dotted keys may go on with tables that
dotted keys made, and an inline table is complete.
-/

namespace TileAtlas

/-- How a table was made. -/
inductive Toml.Origin where
  | header
  | passed
  | dotted
  | inline
deriving DecidableEq, Repr

/-- A TOML value. Of a number, and of a date or time, only that it is one is kept. -/
inductive Toml where
  | text (s : String)
  | flag (b : Bool)
  | number
  | moment
  | list (items : List Toml)
  | table (origin : Toml.Origin) (entries : List (String × Toml))
  | tables (items : List (List (String × Toml)))

namespace Toml

abbrev Entries := List (String × Toml)

def setEntry (key : String) (value : Toml) : Entries → Entries
  | [] => [(key, value)]
  | e :: es => if e.1 = key then (key, value) :: es else e :: setEntry key value es

/-- Change the last item of a list. -/
def updateLast? {α : Type} (f : α → Option α) : List α → Option (List α)
  | [] => none
  | [x] => (f x).map ([·])
  | x :: xs => (updateLast? f xs).map (x :: ·)

/-- Add a key below a path of dotted keys. A key is never defined twice, and the table
at the end of the path has to be one that dotted keys made. -/
def addKey? (key : String) (value : Toml) : List String → Entries → Option Entries
  | [], es => if (es.lookup key).isSome then none else some (es ++ [(key, value)])
  | p :: ps, es =>
    match es.lookup p with
    | none => (addKey? key value ps []).map fun t => setEntry p (.table .dotted t) es
    | some (.table .dotted t) =>
      (addKey? key value ps t).map fun t => setEntry p (.table .dotted t) es
    | some (.table .passed t) =>
      if ps.isEmpty then none
      else (addKey? key value ps t).map fun t => setEntry p (.table .passed t) es
    | some (.tables ts) =>
      if ps.isEmpty then none
      else (updateLast? (addKey? key value ps) ts).map fun ts => setEntry p (.tables ts) es
    | some _ => none

/-- Change the table that a path of header names leads to, making tables on the way. A
list of tables stands for its last one. -/
def descend? (f : Entries → Option Entries) : List String → Entries → Option Entries
  | [], es => f es
  | p :: ps, es =>
    match es.lookup p with
    | none => (descend? f ps []).map fun t => setEntry p (.table .passed t) es
    | some (.table .inline _) => none
    | some (.table origin t) => (descend? f ps t).map fun t => setEntry p (.table origin t) es
    | some (.tables ts) => (updateLast? (descend? f ps) ts).map fun ts => setEntry p (.tables ts) es
    | some _ => none

/-- Define a table by its header: it must not be there, or only have been passed. -/
def defineTable? (key : String) (es : Entries) : Option Entries :=
  match es.lookup key with
  | none => some (setEntry key (.table .header []) es)
  | some (.table .passed t) => some (setEntry key (.table .header t) es)
  | some _ => none

def defineItem? (key : String) (es : Entries) : Option Entries :=
  match es.lookup key with
  | none => some (setEntry key (.tables [[]]) es)
  | some (.tables ts) => some (setEntry key (.tables (ts ++ [[]])) es)
  | some _ => none

end Toml

end TileAtlas
