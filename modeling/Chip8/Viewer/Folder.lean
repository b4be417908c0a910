import Chip8.Memory.Image
import Chip8.Viewer.Path

/-!
# Files

The viewer works in a folder and reads files by their paths. All it needs to know is where the
folder is and what reading a path gives, which is a `FileSystem`. A `Folder` is one that holds the
given files, no further folders, and nothing outside but the folders on the way to it. A path is
followed name by name: it may not go on after a file, a name that is not there ends it, and it has
to end at a file.
-/

namespace Chip8

/-- Where the viewer works, and what it can read. -/
structure FileSystem where
  folder : Path
  read : Path → Except Fault Image

/-- The path of a name, as seen from the folder and in normal form. -/
def FileSystem.resolve (files : FileSystem) (name : String) : Path :=
  files.folder.within (Path.ofText name).normal

/-- A folder: where it is, and the contents of its files by name. -/
structure Folder where
  path : Path
  files : List (String × Image)

/-- Where the names of a path have led so far. -/
inductive Place where
  | inside
  | outside
  | file (image : Image)

namespace Folder

/-- The least number of bytes that is too many for the name of a file. -/
def nameLimit : Nat := 256

/-- The least number of bytes that is too many for a path. -/
def pathLimit : Nat := 4096

/-- Follows one name of a path, whose text the faults report. -/
def enter (folder : Folder) (text : String) (place : Place) (part : String) : Except Fault Place :=
  match place with
  | .file _ => .error (.notAFolder text)
  | .inside =>
    if part = "" ∨ part = "." then .ok .inside
    else if part = ".." then .ok .outside
    else if nameLimit ≤ part.utf8ByteSize then .error (.nameTooLong text)
    else
      match folder.files.lookup part with
      | some image => .ok (.file image)
      | none => .error (.fileNotFound text)
  | .outside =>
    if part = "" ∨ part = "." ∨ part = ".." then .ok .outside
    else if nameLimit ≤ part.utf8ByteSize then .error (.nameTooLong text)
    else .error (.fileNotFound text)

/-- Where a path starts, and the names that it still has to go. A path without a root starts in the
folder, one that leads through the folder too, and every other one outside. -/
def start (folder : Folder) (path : Path) : Place × List String :=
  if path.root = "" then (.inside, path.parts)
  else if path.root = folder.path.root ∧ folder.path.parts.isPrefixOf path.parts then
    (.inside, path.parts.drop folder.path.parts.length)
  else (.outside, path.parts)

/-- The contents of the file at a path. -/
def read (folder : Folder) (path : Path) : Except Fault Image :=
  let text := path.text
  if text.toList.contains '\x00' then .error (.nullInPath text)
  else if pathLimit ≤ text.utf8ByteSize then .error (.nameTooLong text)
  else if text = "" then .error (.fileNotFound text)
  else do
    let (place, parts) := folder.start path
    match ← parts.foldlM (folder.enter text) place with
    | .file image => return image
    | .inside | .outside => throw (.isFolder text)

/-- The folder as all that there is to read. -/
def fileSystem (folder : Folder) : FileSystem :=
  ⟨folder.path, folder.read⟩

end Folder

end Chip8
