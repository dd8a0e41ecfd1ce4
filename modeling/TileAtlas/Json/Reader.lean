/-
Reading JSON text.

The reader takes exactly the standard grammar: no trailing commas, no leading zeros, no
control characters inside strings, and nothing but white space after the value.
-/

import TileAtlas.Json.Basic
import TileAtlas.Number.Decimal

namespace TileAtlas.Json

def isSpace (c : Char) : Bool :=
  c == ' ' || c == '\n' || c == '\t' || c == '\r'

def skipSpaces (cs : List Char) : List Char :=
  cs.dropWhile isSpace

/-- The rest of a string after its opening quote: the body as written, and what follows
the closing quote. -/
def stringBody? : List Char → Option (List Char × List Char)
  | [] => none
  | '"' :: rest => some ([], rest)
  | '\\' :: 'u' :: a :: b :: c :: d :: rest =>
    if (Text.hexDigits? [a, b, c, d]).isSome then
      (stringBody? rest).map fun r => ('\\' :: 'u' :: a :: b :: c :: d :: r.1, r.2)
    else none
  | '\\' :: e :: rest =>
    if (simpleEscape? e).isSome then
      (stringBody? rest).map fun r => ('\\' :: e :: r.1, r.2)
    else none
  | c :: rest =>
    if c = '\\' ∨ c.toNat < 0x20 then none
    else (stringBody? rest).map fun r => (c :: r.1, r.2)

/-- The whole part of a number: a zero, or digits that do not start with one. -/
def wholePart? (cs : List Char) : Option (List Char × List Char) :=
  let (digits, rest) := Number.spanDigits cs
  match digits with
  | [] => none
  | '0' :: _ :: _ => none
  | digits => some (digits, rest)

/-- The part after a decimal point, which may be missing. -/
def fractionPart? : List Char → Option (List Char × List Char)
  | '.' :: cs =>
    let (digits, rest) := Number.spanDigits cs
    if digits.isEmpty then none else some ('.' :: digits, rest)
  | cs => some ([], cs)

/-- The exponent, which may be missing. -/
def exponentPart? : List Char → Option (List Char × List Char)
  | [] => some ([], [])
  | c :: cs =>
    if c = 'e' ∨ c = 'E' then
      let (sign, cs) :=
        match cs with
        | '+' :: cs => (['+'], cs)
        | '-' :: cs => (['-'], cs)
        | cs => ([], cs)
      let (digits, rest) := Number.spanDigits cs
      if digits.isEmpty then none else some (c :: sign ++ digits, rest)
    else some ([], c :: cs)

def number? (cs : List Char) : Option (Json × List Char) := do
  let (sign, rest) :=
    match cs with
    | '-' :: rest => (['-'], rest)
    | cs => ([], cs)
  let (whole, rest) ← wholePart? rest
  let (fraction, rest) ← fractionPart? rest
  let (exponent, rest) ← exponentPart? rest
  return (.number (String.ofList (sign ++ whole ++ fraction ++ exponent)), rest)

def word? (word : String) (value : Json) (cs : List Char) : Option (Json × List Char) :=
  if word.toList.isPrefixOf cs then some (value, cs.drop word.length) else none

mutual

/-- A value and what follows it. The first argument bounds the depth. -/
def value? : Nat → List Char → Option (Json × List Char)
  | 0, _ => none
  | depth + 1, cs =>
    match skipSpaces cs with
    | '[' :: rest =>
      match skipSpaces rest with
      | ']' :: rest => some (.array [], rest)
      | rest => (items? depth rest).map fun r => (.array r.1, r.2)
    | '\x7b' :: rest =>
      match skipSpaces rest with
      | '\x7d' :: rest => some (.object [], rest)
      | rest => (members? depth rest).map fun r => (.object r.1, r.2)
    | '"' :: rest => (stringBody? rest).map fun r => (.string (String.ofList r.1), r.2)
    | 'n' :: rest => word? "null" .null ('n' :: rest)
    | 't' :: rest => word? "true" (.bool true) ('t' :: rest)
    | 'f' :: rest => word? "false" (.bool false) ('f' :: rest)
    | rest => number? rest

/-- The items of an array from its first one on. -/
def items? : Nat → List Char → Option (List Json × List Char)
  | 0, _ => none
  | depth + 1, cs => do
    let (item, rest) ← value? depth cs
    match skipSpaces rest with
    | ']' :: rest => return ([item], rest)
    | ',' :: rest =>
      let (others, rest) ← items? depth rest
      return (item :: others, rest)
    | _ => none

/-- The members of an object from its first one on. -/
def members? : Nat → List Char → Option (List (String × Json) × List Char)
  | 0, _ => none
  | depth + 1, cs =>
    match skipSpaces cs with
    | '"' :: rest => do
      let (key, rest) ← stringBody? rest
      match skipSpaces rest with
      | ':' :: rest =>
        let (value, rest) ← value? depth rest
        let here := (String.ofList key, value)
        match skipSpaces rest with
        | '\x7d' :: rest => return ([here], rest)
        | ',' :: rest =>
          let (others, rest) ← members? depth rest
          return (here :: others, rest)
        | _ => none
      | _ => none
    | _ => none

end

/-- Read a JSON text; `none` if it is not one. -/
def parse? (text : String) : Option Json := do
  let cs := text.toList
  let (value, rest) ← value? (cs.length + 1) cs
  if (skipSpaces rest).isEmpty then return value else none

end TileAtlas.Json
