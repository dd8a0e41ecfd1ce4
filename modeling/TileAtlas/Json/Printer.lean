/-
JSON text, on one line or indented.

The compact form has no white space. The indented form puts every item and member on a
line of its own, two spaces further in than what holds it; what is empty stays on one
line.
-/

import TileAtlas.Json.Basic

namespace TileAtlas.Json

mutual

/-- The text of a value without white space. -/
def compact : Json → String
  | .null => "null"
  | .bool b => if b then "true" else "false"
  | .number literal => literal
  | .string body => "\"" ++ body ++ "\""
  | .array items => "[" ++ Text.joinWith "," (compactItems items) ++ "]"
  | .object members => "\x7b" ++ Text.joinWith "," (compactMembers members) ++ "\x7d"

def compactItems : List Json → List String
  | [] => []
  | i :: is => compact i :: compactItems is

def compactMembers : List (String × Json) → List String
  | [] => []
  | (k, v) :: ms => ("\"" ++ k ++ "\":" ++ compact v) :: compactMembers ms

end

def lineAt (depth : Nat) : String :=
  "\n" ++ String.ofList (List.replicate (2 * depth) ' ')

def block (depth : Nat) (left right : String) (parts : List String) : String :=
  if parts.isEmpty then left ++ right
  else
    left ++ lineAt (depth + 1) ++ Text.joinWith ("," ++ lineAt (depth + 1)) parts ++
      lineAt depth ++ right

mutual

def prettyAt (depth : Nat) : Json → String
  | .null => "null"
  | .bool b => if b then "true" else "false"
  | .number literal => literal
  | .string body => "\"" ++ body ++ "\""
  | .array items => block depth "[" "]" (prettyItems (depth + 1) items)
  | .object members => block depth "\x7b" "\x7d" (prettyMembers (depth + 1) members)

def prettyItems (depth : Nat) : List Json → List String
  | [] => []
  | i :: is => prettyAt depth i :: prettyItems depth is

def prettyMembers (depth : Nat) : List (String × Json) → List String
  | [] => []
  | (k, v) :: ms => ("\"" ++ k ++ "\": " ++ prettyAt depth v) :: prettyMembers depth ms

end

def pretty (j : Json) : String :=
  j.prettyAt 0

end TileAtlas.Json
