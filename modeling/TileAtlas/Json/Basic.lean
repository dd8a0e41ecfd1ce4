/-
JSON values with their literals as written.

A number keeps the text it is written with, and a string what stands between its
quotes. What a literal means is decided where it is used: a string that no one looks at
may hold half of a surrogate pair, and a number that no one looks at may be out of any
range.
-/

import TileAtlas.Text.Numeral

namespace TileAtlas

inductive Json where
  | null
  | bool (b : Bool)
  | number (literal : String)
  | string (body : String)
  | array (items : List Json)
  | object (members : List (String × Json))

namespace Json

def controlEscape (c : Char) : List Char :=
  ['\\', 'u', '0', '0', Nat.digitChar (c.toNat / 16), Nat.digitChar (c.toNat % 16)]

/-- How one character is written inside a string. Only the quote, the backslash and the
control characters are escaped. -/
def escapeChar (c : Char) : List Char :=
  if c = '"' then ['\\', '"']
  else if c = '\\' then ['\\', '\\']
  else if c = '\n' then ['\\', 'n']
  else if c = '\r' then ['\\', 'r']
  else if c = '\t' then ['\\', 't']
  else if c = '\x08' then ['\\', 'b']
  else if c = '\x0C' then ['\\', 'f']
  else if c.toNat < 0x20 then controlEscape c
  else [c]

/-- What stands between the quotes of a text's string. -/
def escape (s : String) : String :=
  String.ofList (s.toList.flatMap escapeChar)

def simpleEscape? : Char → Option Char
  | '"' => some '"'
  | '\\' => some '\\'
  | '/' => some '/'
  | 'b' => some '\x08'
  | 'f' => some '\x0C'
  | 'n' => some '\n'
  | 'r' => some '\r'
  | 't' => some '\t'
  | _ => none

/-- The characters a string body stands for; `none` if the escapes do not form text.
The two halves of a surrogate pair have to follow one another. -/
def unescapeChars? : List Char → Option (List Char)
  | [] => some []
  | '\\' :: 'u' :: a :: b :: c :: d :: rest => do
    let n ← Text.hexDigits? [a, b, c, d]
    if 0xD800 ≤ n ∧ n < 0xDC00 then
      match rest with
      | '\\' :: 'u' :: a :: b :: c :: d :: rest => do
        let m ← Text.hexDigits? [a, b, c, d]
        if 0xDC00 ≤ m ∧ m < 0xE000 then
          let tail ← unescapeChars? rest
          return Char.ofNat (0x10000 + 0x400 * (n - 0xD800) + (m - 0xDC00)) :: tail
        else none
      | _ => none
    else if 0xDC00 ≤ n ∧ n < 0xE000 then none
    else
      let tail ← unescapeChars? rest
      return Char.ofNat n :: tail
  | '\\' :: e :: rest => do
    let c ← simpleEscape? e
    let tail ← unescapeChars? rest
    return c :: tail
  | c :: rest => (unescapeChars? rest).map (c :: ·)

def unescape? (body : String) : Option String :=
  (unescapeChars? body.toList).map String.ofList

def ofText (s : String) : Json :=
  .string (escape s)

def ofNat (n : Nat) : Json :=
  .number (toString n)

def ofInt (n : Int) : Json :=
  .number (toString n)

/-- The value of something that may be missing. -/
def ofOption {α : Type} (f : α → Json) : Option α → Json
  | some a => f a
  | none => .null

def member (name : String) (value : Json) : List (String × Json) :=
  [(name, value)]

def memberUnless (left : Bool) (name : String) (value : Json) : List (String × Json) :=
  if left then [] else [(name, value)]

end Json

end TileAtlas
