/-
The tokens of a markup document: tags, character data, comments, instructions.

A tag keeps its attributes as they are written: names with their qualifiers, values
with their references. `scan?` cuts a whole document into tokens and fails if it meets
something that is no token. There is no document type declaration.
-/

import TileAtlas.Markup.Chars
import TileAtlas.Text.Blank

namespace TileAtlas.Markup

/-- A name with an optional qualifier; an empty qualifier is none. -/
structure QName where
  qualifier : String
  name : String
deriving DecidableEq, Repr

structure RawAttribute where
  name : QName
  value : List Char
deriving DecidableEq, Repr

inductive Token where
  | opening (name : QName) (attributes : List RawAttribute) (closed : Bool)
  | closing (name : QName)
  | text (raw : List Char)
  | section (raw : List Char)
  | comment (content : String)
  | instruction (target : String)
deriving Repr

/-- What follows a fixed text. -/
def after? (word : String) (cs : List Char) : Option (List Char) :=
  if word.toList.isPrefixOf cs then some (cs.drop word.length) else none

/-- The characters before the first occurrence of a fixed text, and what follows it. -/
def upTo? (stop : String) : List Char → Option (List Char × List Char)
  | [] => none
  | c :: cs =>
    match after? stop (c :: cs) with
    | some rest => some ([], rest)
    | none => if isAllowed c then (upTo? stop cs).map (fun r => (c :: r.1, r.2)) else none

def skipSpaces (cs : List Char) : List Char :=
  cs.dropWhile isSpace

def startsWithSpace (cs : List Char) : Bool :=
  cs.head?.any isSpace

def isNamePart (cs : List Char) : Bool :=
  cs.head?.any isNameStart

/-- A name with at most one colon; the part after it must not be empty. -/
def qname? (cs : List Char) : Option (QName × List Char) :=
  let rest := cs.dropWhile isNameChar
  match Text.fieldChars ':' (cs.takeWhile isNameChar) with
  | [n] => if isNamePart n then some (⟨"", String.ofList n⟩, rest) else none
  | [q, n] =>
    if (q.isEmpty || isNamePart q) && isNamePart n then
      some (⟨String.ofList q, String.ofList n⟩, rest)
    else none
  | _ => none

/-- A quoted value. It must not contain a `<`. -/
def quotedValue? : List Char → Option (List Char × List Char)
  | q :: cs =>
    if q = '"' ∨ q = '\'' then
      let value := cs.takeWhile (fun c => c != q && c != '<')
      match cs.dropWhile (fun c => c != q && c != '<') with
      | d :: rest => if d = q ∧ value.all isAllowed then some (value, rest) else none
      | [] => none
    else none
  | [] => none

def attribute? (cs : List Char) : Option (RawAttribute × List Char) := do
  let (name, rest) ← qname? cs
  let rest ← after? "=" (skipSpaces rest)
  let (value, rest) ← quotedValue? (skipSpaces rest)
  return (⟨name, value⟩, rest)

/-- The attributes of a tag up to its end, and whether it closes itself. Each attribute
needs white space before it. -/
def attributes? : Nat → List Char → Option (List RawAttribute × Bool × List Char)
  | 0, _ => none
  | fuel + 1, cs =>
    match skipSpaces cs with
    | [] => none
    | '>' :: rest => some ([], false, rest)
    | '/' :: rest => (after? ">" rest).map (fun rest => ([], true, rest))
    | inner =>
      if startsWithSpace cs then do
        let (first, rest) ← attribute? inner
        let (others, closed, rest) ← attributes? fuel rest
        return (first :: others, closed, rest)
      else none

/-- A comment after its opening mark. It contains no double hyphen and does not end in a
hyphen. -/
def comment? (cs : List Char) : Option (Token × List Char) := do
  let (content, rest) ← upTo? "-->" cs
  if (upTo? "--" content).isSome || content.getLast? == some '-' then none
  else return (.comment (String.ofList content), rest)

/-- A processing instruction after its opening mark. The name `xml` with a space after
it is kept for the declaration. -/
def instruction? (cs : List Char) : Option (Token × List Char) :=
  if (after? "xml " cs).isSome then none
  else if isNamePart cs then do
    let target := cs.takeWhile isNameChar
    let (_, rest) ← upTo? "?>" (skipSpaces (cs.dropWhile isNameChar))
    return (.instruction (String.ofList target), rest)
  else none

def closing? (cs : List Char) : Option (Token × List Char) := do
  let (name, rest) ← qname? cs
  let rest ← after? ">" (skipSpaces rest)
  return (.closing name, rest)

def opening? (cs : List Char) : Option (Token × List Char) := do
  let (name, rest) ← qname? cs
  let (attributes, closed, rest) ← attributes? (rest.length + 1) rest
  return (.opening name attributes closed, rest)

/-- Character data up to the next tag. It must not contain the end mark of a section. -/
def text? (cs : List Char) : Option (Token × List Char) :=
  let raw := cs.takeWhile (· != '<')
  if raw.all isAllowed && (upTo? "]]>" raw).isNone then
    some (.text raw, cs.dropWhile (· != '<'))
  else none

/-- The first token of a text that is not empty. -/
def token? (cs : List Char) : Option (Token × List Char) :=
  match after? "<!--" cs with
  | some rest => comment? rest
  | none =>
    match after? "<![CDATA[" cs with
    | some rest => (upTo? "]]>" rest).map (fun r => (.section r.1, r.2))
    | none =>
      match cs with
      | '<' :: '?' :: rest => instruction? rest
      | '<' :: '/' :: rest => closing? rest
      | '<' :: rest => opening? rest
      | _ => text? cs

def tokens? : Nat → List Char → Option (List Token)
  | _, [] => some []
  | 0, _ => none
  | fuel + 1, cs => do
    let (t, rest) ← token? cs
    let ts ← tokens? fuel rest
    return t :: ts

/-- Skip an attribute of the declaration if it is there, and the white space after it.
Unless the declaration ends, that white space is required. -/
def skipDeclared? (word : String) (cs : List Char) : Option (List Char) :=
  if (after? word cs).isSome then do
    let (_, rest) ← attribute? cs
    if startsWithSpace rest || (after? "?>" rest).isSome || rest.isEmpty then
      return skipSpaces rest
    else none
  else some cs

/-- What follows the declaration of a document, which may be missing. It must give a
version first; then it may name an encoding and then say whether it stands alone. -/
def afterDeclaration? (cs : List Char) : Option (List Char) :=
  match after? "<?xml " cs with
  | none => some cs
  | some rest => do
    let rest := skipSpaces rest
    let _ ← after? "version" rest
    let rest ← skipDeclared? "version" rest
    let rest ← skipDeclared? "encoding" rest
    let rest ←
      if (after? "standalone" rest).isSome then (attribute? rest).map (·.2) else some rest
    after? "?>" (skipSpaces rest)

/-- The tokens of a document. A byte order mark may come first. -/
def scan? (document : String) : Option (List Token) := do
  let cs := document.toList
  let rest ← afterDeclaration? ((after? "\uFEFF" cs).getD cs)
  tokens? rest.length rest

end TileAtlas.Markup
