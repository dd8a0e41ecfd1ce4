/-
A text between double quotes, with escapes for what would be misread.

The quote, the backslash and the four common control characters have an escape of
their own; every other hidden character is written by its code point in lower-case
hexadecimal without padding; all else stands as it is.
-/

import TileAtlas.Text.Hidden

namespace TileAtlas.Text

def quotedChar (c : Char) : String :=
  match c with
  | '"' => "\\\""
  | '\\' => "\\\\"
  | '\t' => "\\t"
  | '\r' => "\\r"
  | '\n' => "\\n"
  | '\x00' => "\\0"
  | c =>
    if isHidden c then "\\u\x7b" ++ String.ofList (Nat.toDigits 16 c.toNat) ++ "\x7d"
    else c.toString

def quoted (s : String) : String :=
  "\"" ++ String.join (s.toList.map quotedChar) ++ "\""

end TileAtlas.Text
