/-
The size of an image, read from the start of its file.

The file name's extension says which format to expect. A file that does not start like
one of that format has no size.
-/

import TileAtlas.Path
import TileAtlas.Image.Bmp
import TileAtlas.Image.Gif
import TileAtlas.Image.Jpeg
import TileAtlas.Image.Png

namespace TileAtlas.Image

inductive Format where
  | png
  | jpeg
  | gif
  | bmp
deriving DecidableEq, Repr

def Format.extensions : Format → List String
  | .png => ["png", "apng"]
  | .jpeg => ["jpg", "jpeg", "jfif"]
  | .gif => ["gif"]
  | .bmp => ["bmp"]

/-- The format a file name promises. -/
def Format.ofPath? (p : Path) : Option Format :=
  [.png, .jpeg, .gif, .bmp].find? fun f => f.extensions.any p.hasExtension

def Format.size? : Format → List UInt8 → Option Size
  | .png => Png.size?
  | .jpeg => Jpeg.size?
  | .gif => Gif.size?
  | .bmp => Bmp.size?

def size? (p : Path) (content : ByteArray) : Option Size :=
  (Format.ofPath? p).bind fun format => format.size? content.data.toList

end TileAtlas.Image
