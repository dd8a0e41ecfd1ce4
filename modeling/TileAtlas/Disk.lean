/-
Snapshots of a file system.

A snapshot says what is found at each path: a file or a directory, at the one canonical
place that all paths to it share, or why nothing is found. To find something is not to be
allowed to open it, so a file has its bytes, and a directory the names in it, or a cause why
they cannot be had. Everything else that is asked of a file system follows from that.
-/

import TileAtlas.Path

namespace TileAtlas

namespace Disk

/-- Why a file cannot be used. -/
inductive Error where
  | notFound
  | notDirectory
  | isDirectory
  | denied
  | nameTooLong
  | zeroCharacter
  | notText
deriving DecidableEq, Repr

def Error.message : Error → String
  | .notFound => "No such file or directory (os error 2)"
  | .notDirectory => "Not a directory (os error 20)"
  | .isDirectory => "Is a directory (os error 21)"
  | .denied => "Permission denied (os error 13)"
  | .nameTooLong => "File name too long (os error 36)"
  | .zeroCharacter => "file name contained an unexpected NUL byte"
  | .notText => "stream did not contain valid UTF-8"

/-- The most bytes in the name of a file or directory. -/
def nameLimit : Nat := 255

/-- The most bytes in a path. -/
def pathLimit : Nat := 4095

/-- Why a path leads nowhere, whatever there is: a character in it ends every name, or it
is empty or too long. -/
def refusal? (p : Path) : Option Error :=
  if p.text.toList.contains '\x00' then some .zeroCharacter
  else if p.text = "" then some .notFound
  else if pathLimit < p.text.utf8ByteSize then some .nameTooLong
  else none

/-- What is at a place, and what opening it gives. The names of a directory come in whatever
order the system lists them. A device or a pipe is neither a file nor a directory. -/
inductive Content where
  | file (bytes : Except Error ByteArray)
  | directory (names : Except Error (List String))
  | device (bytes : Except Error ByteArray)

/-- The end of a look-up: the canonical place and what is there. -/
structure Found where
  place : Path
  content : Content

end Disk

structure Disk where
  find : Path → Except Disk.Error Disk.Found

namespace Disk

def isFile (d : Disk) (p : Path) : Bool :=
  match d.find p with
  | .ok ⟨_, .file _⟩ => true
  | _ => false

def isDirectory (d : Disk) (p : Path) : Bool :=
  match d.find p with
  | .ok ⟨_, .directory _⟩ => true
  | _ => false

/-- The bytes at a path. A directory that can be opened still has none. -/
def read (d : Disk) (p : Path) : Except Error ByteArray :=
  match d.find p with
  | .ok ⟨_, .file bytes⟩ => bytes
  | .ok ⟨_, .device bytes⟩ => bytes
  | .ok ⟨_, .directory names⟩ => names.bind fun _ => .error .isDirectory
  | .error e => .error e

/-- The text of a file, which has to be valid UTF-8. -/
def readText (d : Disk) (p : Path) : Except Error String :=
  (d.read p).bind fun bytes =>
    match String.fromUTF8? bytes with
    | some s => .ok s
    | none => .error .notText

def list (d : Disk) (p : Path) : Except Error (List String) :=
  match d.find p with
  | .ok ⟨_, .directory names⟩ => names
  | .ok _ => .error .notDirectory
  | .error e => .error e

/-- The canonical place of a path, or the path itself if nothing is there. -/
def place (d : Disk) (p : Path) : Path :=
  match d.find p with
  | .ok found => found.place
  | .error _ => p

/-- The directory that a path to be written lies in, and the name there; no name if the
path ends in a slash. -/
def target (p : Path) : Path × Option String :=
  match p.segments.reverse.dropWhile (· == "") with
  | [] => (⟨"/"⟩, none)
  | name :: rest =>
    let dir : Path :=
      if rest.isEmpty then ⟨"."⟩ else ⟨Text.joinWith "/" ("" :: rest).reverse⟩
    (dir, if p.segments.getLast? = some "" then none else some name)

/-- Whether there is a directory at a path, which need not be one that can be listed. -/
def checkDirectory (d : Disk) (p : Path) : Except Error Unit :=
  match d.find p with
  | .ok ⟨_, .directory _⟩ => .ok ()
  | .ok _ => .error .notDirectory
  | .error e => .error e

/-- Whether a file can be written at a path: its directory has to exist, there must not
be a directory in its place, and its name must not be too long. -/
def checkWritable (d : Disk) (p : Path) : Except Error Unit :=
  match refusal? p with
  | some cause => .error cause
  | none =>
    let (dir, name) := target p
    (d.checkDirectory dir).bind fun _ =>
      if name.isNone || d.isDirectory p then .error .isDirectory
      else if name.any (fun n => nameLimit < n.utf8ByteSize) then .error .nameTooLong
      else .ok ()

end Disk

end TileAtlas
