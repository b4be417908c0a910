import Chip8.Listing

/-!
# Disassemblies

A disassembly keeps an image together with the listing that was made from it. The listing is made
once. A program that changes its own code makes it stale, which `isStale` tells, and nothing lists
it again.

The fields can also be put together freely, with any region and any lines; every operation still
answers, and `lineIndex` never names a line that does not exist.
-/

namespace Chip8

/-- An image, its region and the lines listed from it. -/
structure Disassembly where
  image : Image
  lines : List Line := []
  region : Region := {}
deriving DecidableEq

namespace Disassembly

/-- How many lines a window shows on either side, unless another number is asked for. -/
def defaultContext : Int := 8

/-- Lists a region of an image. -/
def ofImage (image : Image) (region : Region) : Except Fault Disassembly := do
  return { image, lines := ← Listing.ofImage image region, region }

/-- Lists a region of memory that is handed over as cells, which are checked before the region. -/
def ofCells (cells : Cells) (region : Region) : Except Fault Disassembly := do
  ofImage (← Image.ofCells cells) region

/-- The position of an address among the lines. -/
def position (d : Disassembly) (address : Int) : Except Fault (Fin d.lines.length) := do
  let index ← d.region.lineIndex address
  if h : index < d.lines.length then
    return ⟨index, h⟩
  else
    throw (.address (.beyondEnd address d.region.limit))

/-- The position of an address among the lines, as a number. -/
def lineIndex (d : Disassembly) (address : Int) : Except Fault Nat :=
  (d.position address).map fun index => index.val

/-- The line of an address. -/
def lineAt (d : Disassembly) (address : Int) : Except Fault Line :=
  (d.position address).map fun index => d.lines.get index

/-- The lines around an address. The upper bound is signed, so that with a negative context it can
count from the end of the listing. -/
def window (d : Disassembly) (address context : Int) : Except Fault (List Line) := do
  let index ← d.lineIndex address
  return Slice.select d.lines (max 0 (index - context)) (index + context + 1)

/-- Whether an image differs from the listed one within the region. An image that ends before the
region does is always different. -/
def isStale (d : Disassembly) (image : Image) : Bool :=
  (image.size : Int) < d.region.limit ||
    image.part d.region.base d.region.limit != d.image.part d.region.base d.region.limit

end Disassembly

end Chip8
