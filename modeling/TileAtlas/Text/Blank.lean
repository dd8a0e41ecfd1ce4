/-
White space, trimming, and cutting a text at a separator.

* `trim` removes white space at both ends and nothing in between.
* `fields` cuts a text at every separator: a text with `n` separators has `n + 1`
  fields, some of them possibly empty, so the empty text is one empty field.
-/

namespace TileAtlas.Text

/-- White space in the sense of the Unicode property `White_Space`. A zero-width
space or a byte order mark is not white space. -/
def isBlank (c : Char) : Bool :=
  let n := c.toNat
  (0x9 ≤ n && n ≤ 0xD) || n == 0x20 || n == 0x85 || n == 0xA0 || n == 0x1680 ||
    (0x2000 ≤ n && n ≤ 0x200A) || n == 0x2028 || n == 0x2029 || n == 0x202F ||
    n == 0x205F || n == 0x3000

def trimEndChars (cs : List Char) : List Char :=
  (cs.reverse.dropWhile isBlank).reverse

def trimChars (cs : List Char) : List Char :=
  trimEndChars (cs.dropWhile isBlank)

def trim (s : String) : String :=
  String.ofList (trimChars s.toList)

/-- Cut a character list at every `sep`. -/
def fieldChars (sep : Char) (cs : List Char) : List (List Char) :=
  cs.foldr (fun c fs => if c = sep then [] :: fs else fs.modifyHead (c :: ·)) [[]]

def fields (sep : Char) (s : String) : List String :=
  (fieldChars sep s.toList).map String.ofList

/-- A text with every ASCII capital made small. -/
def lowerAscii (s : String) : String :=
  s.map Char.toLower

def joinWith (sep : String) (parts : List String) : String :=
  String.join (parts.intersperse sep)

end TileAtlas.Text
