/-
The smaller parts of TOML text: white space, strings, keys, and the scalars.
-/

import TileAtlas.Number.Decimal

namespace TileAtlas.Toml

def isBlank (c : Char) : Bool :=
  c == ' ' || c == '\t'

def skipBlanks (cs : List Char) : List Char :=
  cs.dropWhile isBlank

def lineEnd? : List Char → Option (List Char)
  | '\n' :: cs => some cs
  | '\r' :: '\n' :: cs => some cs
  | _ => none

/-- Characters that may stand literally in a comment or a string: no control characters
but the tab. -/
def isLiteral (c : Char) : Bool :=
  c == '\t' || (0x20 ≤ c.toNat && c.toNat != 0x7F)

/-- Skip a comment if there is one. -/
def skipComment : List Char → List Char
  | '#' :: cs => cs.dropWhile isLiteral
  | cs => cs

/-- What may follow a statement on its line: blanks, a comment, and the line end unless
the document ends. -/
def restOfLine? (cs : List Char) : Option (List Char) :=
  match skipComment (skipBlanks cs) with
  | [] => some []
  | cs => lineEnd? cs

def skipLines : Nat → List Char → List Char
  | 0, cs => cs
  | fuel + 1, cs =>
    let cs := skipComment (skipBlanks cs)
    match lineEnd? cs with
    | some rest => skipLines fuel rest
    | none => cs

/-- The character with a code point, if it is one. -/
def scalarChar? (n : Nat) : Option Char :=
  if h : n.isValidChar then some (Char.ofNatAux n h) else none

def escape? : List Char → Option (Char × List Char)
  | 'b' :: cs => some ('\x08', cs)
  | 't' :: cs => some ('\t', cs)
  | 'n' :: cs => some ('\n', cs)
  | 'f' :: cs => some ('\x0C', cs)
  | 'r' :: cs => some ('\r', cs)
  | '"' :: cs => some ('"', cs)
  | '\\' :: cs => some ('\\', cs)
  | 'u' :: cs => hex 4 cs
  | 'U' :: cs => hex 8 cs
  | _ => none
where
  hex (n : Nat) (cs : List Char) : Option (Char × List Char) :=
    if cs.length < n then none
    else ((Text.hexDigits? (cs.take n)).bind scalarChar?).map (fun c => (c, cs.drop n))

def basicString? : Nat → List Char → Option (List Char × List Char)
  | _, '"' :: cs => some ([], cs)
  | fuel + 1, '\\' :: cs => do
    let (c, rest) ← escape? cs
    let (tail, rest) ← basicString? fuel rest
    return (c :: tail, rest)
  | fuel + 1, c :: cs =>
    if isLiteral c then (basicString? fuel cs).map (fun r => (c :: r.1, r.2)) else none
  | _, _ => none

/-- A string on one line without escapes, after its opening quote. -/
def literalString? (cs : List Char) : Option (List Char × List Char) :=
  let body := cs.takeWhile (fun c => c != '\'' && isLiteral c)
  match cs.dropWhile (fun c => c != '\'' && isLiteral c) with
  | '\'' :: rest => some (body, rest)
  | _ => none

/-- The end of a string over several lines at a run of quotes: three close it, and one
or two more before them belong to it. -/
def closing? (quote : Char) (cs : List Char) : Option (List Char × List Char) :=
  let run := (cs.takeWhile (· == quote)).length
  if run < 3 then none
  else
    let inside := min (run - 3) 2
    some (List.replicate inside quote, cs.drop (inside + 3))

/-- Skip the blanks and line ends after a backslash at the end of a line. -/
def joinedLine? (fuel : Nat) (cs : List Char) : Option (List Char) :=
  (lineEnd? (skipBlanks cs)).map (skip fuel)
where
  skip : Nat → List Char → List Char
    | 0, cs => cs
    | fuel + 1, cs =>
      match lineEnd? (skipBlanks cs) with
      | some rest => skip fuel rest
      | none => skipBlanks cs

/-- The body of a string over several lines, with escapes or without. -/
def longBody? (quote : Char) (escapes : Bool) : Nat → List Char → Option (List Char × List Char)
  | 0, _ => none
  | fuel + 1, cs =>
    match closing? quote cs with
    | some found => some found
    | none =>
      match lineEnd? cs with
      | some rest => (longBody? quote escapes fuel rest).map (fun r => ('\n' :: r.1, r.2))
      | none =>
        match cs with
        | [] => none
        | c :: rest =>
          if escapes ∧ c = '\\' then
            match joinedLine? rest.length rest with
            | some rest => longBody? quote escapes fuel rest
            | none => do
              let (d, rest) ← escape? rest
              let (tail, rest) ← longBody? quote escapes fuel rest
              return (d :: tail, rest)
          else if isLiteral c then
            (longBody? quote escapes fuel rest).map (fun r => (c :: r.1, r.2))
          else none

/-- A string over several lines after its opening quotes. A line end right after them
is not part of it. -/
def longString? (quote : Char) (escapes : Bool) (cs : List Char) :
    Option (List Char × List Char) :=
  longBody? quote escapes (cs.length + 1) ((lineEnd? cs).getD cs)

def shortString? : List Char → Option (List Char × List Char)
  | '"' :: cs => basicString? cs.length cs
  | '\'' :: cs => literalString? cs
  | _ => none

/-- A string of any kind. -/
def string? : List Char → Option (List Char × List Char)
  | '"' :: '"' :: '"' :: cs => longString? '"' true cs
  | '\'' :: '\'' :: '\'' :: cs => longString? '\'' false cs
  | cs => shortString? cs

def isBareKey (c : Char) : Bool :=
  c.isAlphanum || c == '_' || c == '-'

def simpleKey? (cs : List Char) : Option (String × List Char) :=
  let bare := cs.takeWhile isBareKey
  if bare.isEmpty then (shortString? cs).map (fun r => (String.ofList r.1, r.2))
  else some (String.ofList bare, cs.dropWhile isBareKey)

def key? : Nat → List Char → Option (List String × List Char)
  | 0, _ => none
  | fuel + 1, cs => do
    let (part, rest) ← simpleKey? (skipBlanks cs)
    match skipBlanks rest with
    | '.' :: rest =>
      let (parts, rest) ← key? fuel rest
      return (part :: parts, rest)
    | rest => return ([part], rest)

/-! ### Scalars

A scalar is a run of letters, digits and a few marks. It is checked as a whole. -/

def isScalarChar (c : Char) : Bool :=
  c.isAlphanum || c == '+' || c == '-' || c == '_' || c == '.' || c == ':'

/-- Digits of a base with single underscores between them; the digits alone. -/
def grouped? (isDigit : Char → Bool) (cs : List Char) : Option (List Char) :=
  let groups := Text.fieldChars '_' cs
  if groups.all (fun g => !g.isEmpty && g.all isDigit) then some groups.flatten else none

def withoutSign : List Char → List Char
  | '+' :: cs => cs
  | '-' :: cs => cs
  | cs => cs

/-- The whole part of a decimal number: grouped digits without leading zeros. -/
def wholeDigits? (cs : List Char) : Option (List Char) :=
  (grouped? Char.isDigit cs).filter (fun ds => ds.length == 1 || ds.head? != some '0')

/-- The first natural number that is too large for an integer. -/
def integerLimit : Nat := 0x8000000000000000

/-- Digits of a base that make up an integer. -/
def fitsInBase (base : Nat) (cs : List Char) : Bool :=
  let isDigit (c : Char) : Bool := (Text.hexDigit? c).any (· < base)
  let value (ds : List Char) : Nat :=
    ds.foldl (fun n d => base * n + (Text.hexDigit? d).getD 0) 0
  (grouped? isDigit cs).any (fun ds => value ds < integerLimit)

def isInteger : List Char → Bool
  | '0' :: 'x' :: cs => fitsInBase 16 cs
  | '0' :: 'o' :: cs => fitsInBase 8 cs
  | '0' :: 'b' :: cs => fitsInBase 2 cs
  | cs =>
    let bound : Nat := if cs.head? = some '-' then integerLimit + 1 else integerLimit
    (wholeDigits? (withoutSign cs)).any (fun ds => Text.digitsValue ds < bound)

/-- The exponent of a float: a mark, a sign, and digits. -/
def isExponent : List Char → Bool
  | [] => true
  | _ :: cs => (grouped? Char.isDigit (withoutSign cs)).isSome

def isMark (c : Char) : Bool :=
  c == 'e' || c == 'E'

/-- A float: a whole part with a fraction, an exponent, or both, that is not too large
for a double; or one of the two words. -/
def isFloat (cs : List Char) : Bool :=
  let body := withoutSign cs
  if body = "inf".toList ∨ body = "nan".toList then true
  else
    let mantissa := body.takeWhile (fun c => !isMark c)
    let exponent := body.dropWhile (fun c => !isMark c)
    let shape :=
      match Text.fieldChars '.' mantissa with
      | [whole] => (wholeDigits? whole).isSome && !exponent.isEmpty
      | [whole, fraction] =>
        (wholeDigits? whole).isSome && (grouped? Char.isDigit fraction).isSome
      | _ => false
    let value := Number.Binary.read? Number.binary64 (String.ofList (cs.filter (· != '_')))
    shape && isExponent exponent && value != some (.infinite false)

/-- The value of exactly `n` digits, and what follows. -/
def fixedDigits? (n : Nat) (cs : List Char) : Option (Nat × List Char) :=
  if cs.length < n then none else (Text.digits? (cs.take n)).map (fun v => (v, cs.drop n))

def mark? (c : Char) : List Char → Option (List Char)
  | d :: cs => if c = d then some cs else none
  | [] => none

def daysIn (year month : Nat) : Nat :=
  match month with
  | 2 => if year % 4 = 0 ∧ (year % 100 ≠ 0 ∨ year % 400 = 0) then 29 else 28
  | 4 | 6 | 9 | 11 => 30
  | _ => 31

def date? (cs : List Char) : Option (List Char) := do
  let (year, cs) ← fixedDigits? 4 cs
  let (month, cs) ← fixedDigits? 2 (← mark? '-' cs)
  let (day, cs) ← fixedDigits? 2 (← mark? '-' cs)
  if 1 ≤ month ∧ month ≤ 12 ∧ 1 ≤ day ∧ day ≤ daysIn year month then some cs else none

def hourMinute? (cs : List Char) : Option (List Char) := do
  let (hour, cs) ← fixedDigits? 2 cs
  let (minute, cs) ← fixedDigits? 2 (← mark? ':' cs)
  if hour < 24 ∧ minute < 60 then some cs else none

def time? (cs : List Char) : Option (List Char) := do
  let cs ← hourMinute? cs
  let (second, cs) ← fixedDigits? 2 (← mark? ':' cs)
  if 60 < second then none
  else
    match cs with
    | '.' :: cs =>
      if cs.head?.any Char.isDigit then some (cs.dropWhile Char.isDigit) else none
    | cs => some cs

/-- Whether an offset from universal time, or none, ends the text. -/
def isOffset : List Char → Bool
  | [] => true
  | [c] => c == 'Z' || c == 'z'
  | c :: cs => (c == '+' || c == '-') && hourMinute? cs == some []

def isMoment (cs : List Char) : Bool :=
  match date? cs with
  | some [] => true
  | some (c :: rest) =>
    (c == 'T' || c == 't' || c == ' ') && (time? rest).any isOffset
  | none => time? cs == some []

/-- A scalar and what follows it. A date may have a time after a single space. -/
def scalar? (cs : List Char) : Option (List Char × List Char) :=
  let run := cs.takeWhile isScalarChar
  let rest := cs.dropWhile isScalarChar
  match rest with
  | ' ' :: more =>
    if date? run = some [] ∧ more.head?.any Char.isDigit then
      some (run ++ ' ' :: more.takeWhile isScalarChar, more.dropWhile isScalarChar)
    else some (run, rest)
  | _ => some (run, rest)

end TileAtlas.Toml
