import Chip8.Text.Pieces

/-!
# Paths

A path is a root, if it has one, and the names on the way from there. Written out, a path may hold
empty names and names that stay where they are, `.`; its normal form drops both. A name that goes
up, `..`, is kept, because what it leads to depends on what came before it.
-/

namespace Chip8

/-- A path. The root is empty for a path that is relative to some folder. -/
structure Path where
  root : String
  parts : List String
deriving DecidableEq, Repr

namespace Path

/-- The root of a path that starts with the given number of slashes. Exactly two mean a root of
their own. -/
def rootOf (slashes : Nat) : String :=
  match slashes with
  | 0 => ""
  | 2 => "//"
  | _ => "/"

/-- The path that a text denotes, name by name. The empty text has neither root nor names. -/
def ofText (text : String) : Path :=
  let rest := text.toList.dropWhile (· == '/')
  { root := rootOf (text.toList.takeWhile (· == '/')).length
    parts := if rest.isEmpty then [] else (Text.pieces '/' rest).map String.ofList }

/-- The path without the names that make no difference to it. -/
def normal (path : Path) : Path :=
  { path with parts := path.parts.filter fun part => part != "" && part != "." }

/-- The text of a path. A root that does not end with a slash is set off by one. -/
def text (path : Path) : String :=
  let names := "/".intercalate path.parts
  if path.root = "" ∨ path.root = "/" ∨ path.root = "//" ∨ path.parts = [] then path.root ++ names
  else path.root ++ "/" ++ names

/-- A path as it is shown: one without root and names stays where it is. -/
def shown (path : Path) : String :=
  if path.text = "" then "." else path.text

/-- A path as seen from a folder: with a root it stands for itself. -/
def within (folder path : Path) : Path :=
  if path.root = "" then ⟨folder.root, folder.parts ++ path.parts⟩ else path

end Path

end Chip8
