import Chip8.Layout
import Chip8.Memory.Region
import Chip8.Opcode.Rule

/-!
# Listings

A listing has one line for each word of a region, in the order of their addresses. A line shows the
address, the word and what it means. Shown together, lines can carry a marker column, which points
at one address, and can be filled up to a common width.
-/

namespace Chip8

/-- What is shown for the word at an address. The mnemonic is empty if the word denotes no
instruction. -/
structure Line where
  address : Int
  opcode : Word
  segments : List Segment
  mnemonic : String := ""
deriving DecidableEq

namespace Line

/-- The line of a word. -/
def ofWord (word : Word) (address : Int) : Line where
  address := address
  opcode := word
  segments :=
    [⟨Numeral.hex 4 address ++ " ", .address⟩, ⟨Numeral.hex 4 word.raw ++ " ", .opcode⟩,
      ⟨" ", .keyword⟩] ++ word.instruction
  mnemonic := word.mnemonic

/-- The text of a line. -/
def text (line : Line) : String :=
  Segment.joined line.segments

/-- The marker column: nothing unless some address is highlighted, and then a pointer at the line of
that address and a blank at every other. -/
def marker (highlight : Option Int) (line : Line) : List Segment :=
  match highlight with
  | none => []
  | some address => [⟨if line.address = address then ">" else " ", .plain⟩]

/-- A line with its marker column. -/
def row (highlight : Option Int) (line : Line) : List Segment :=
  line.marker highlight ++ line.segments

end Line

namespace Listing

/-- The width of a listing, unless another is asked for. -/
def defaultWidth : Nat := 120

/-- The lines of consecutive words, the first at `base`. -/
def ofWords (base : Int) (words : List Word) : List Line :=
  words.mapIdx fun i word => Line.ofWord word (base + 2 * i)

/-- The lines of a region of memory that is handed over as cells. -/
def ofCells (cells : Cells) (region : Region) : Except Fault (List Line) := do
  return ofWords region.base (← cells.programWords region)

/-- The lines of a region of an image. -/
def ofImage (image : Image) (region : Region) : Except Fault (List Line) := do
  return ofWords region.base (← image.programWords region)

/-- What is reported once a region has been listed. -/
def record (lines : List Line) (region : Region) : String :=
  "Disassembled " ++ Numeral.decimal lines.length ++ " words at " ++ Numeral.hex 4 region.base ++
    "-" ++ Numeral.hex 4 region.limit ++ " (" ++
    Numeral.decimal (lines.countP fun line => line.mnemonic == "") ++ " unrecognised)"

/-- The lines as one stream of segments, if the width leaves room for its blanks. -/
def segments [Capacity] (lines : List Line) (width highlight : Option Int) :
    Except Fault (List Segment) :=
  Layout.stream? width (lines.map (Line.row highlight))

/-- The lines as text, with a line break between any two rows. -/
def render [Capacity] (lines : List Line) (width highlight : Option Int) : Except Fault String :=
  (segments lines width highlight).map fun stream =>
    "\n".intercalate ((Segment.rows stream).map Segment.joined)

end Listing

end Chip8
