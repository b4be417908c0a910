import Chip8.Memory.Image

/-!
# The program's region

A program occupies the words from a base up to a limit. Both ends have to lie between words, and
the base between zero and the limit. The words of a region are read off an image in one pass: every
other byte from the base on is a high byte, every other byte after the base a low one, and the two
runs are put side by side.
-/

namespace Chip8

/-- The addresses from `base` up to, and without, `limit`. The machine loads programs at `0x200` of
its 4096 bytes. -/
structure Region where
  base : Int := 0x200
  limit : Int := 4096
deriving DecidableEq, Repr

/-- How many bytes a word takes. -/
def wordSize : Nat := 2

namespace Region

/-- Refuses a region that no listing can have. That its base is outside is said with its limit in
decimal. -/
def check (region : Region) : Except Fault Unit :=
  if region.base % 2 ≠ 0 ∨ region.limit % 2 ≠ 0 then
    .error (.address (.misalignedRegion region.base region.limit))
  else if region.base < 0 ∨ region.limit < region.base then
    .error (Capacity.naming region.limit (.address (.baseOutside region.base region.limit)))
  else .ok ()

/-- The regions that a listing can have. -/
theorem check_eq_ok_iff (region : Region) :
    region.check = .ok () ↔
      region.base % 2 = 0 ∧ region.limit % 2 = 0 ∧
        0 ≤ region.base ∧ region.base ≤ region.limit := by
  unfold check Capacity.naming
  split
  · simp; omega
  · split
    · split <;> simp <;> omega
    · simp; omega

/-- How many words a region has. -/
def wordCount (region : Region) : Nat :=
  ((region.limit - region.base) / 2).toNat

/-- Which line of a region's listing an address has. Only addresses below the base and odd ones are
refused; the listing's end is not looked at. -/
def lineIndex (region : Region) (address : Int) : Except Fault Nat :=
  if address < region.base then .error (.address (.belowBase address region.base))
  else if address % 2 ≠ 0 then .error (.address (.misaligned address))
  else .ok ((address - region.base) / 2).toNat

end Region

namespace Image

/-- The words of a region: its high bytes and its low bytes, joined in order. -/
def words (image : Image) (region : Region) : List Word :=
  List.zipWith (fun high low => Word.join (.ofNat high) (.ofNat low))
    (image.alternate region.base region.limit) (image.alternate (region.base + 1) region.limit)

/-- The words of a region that the image holds to its end. That it does not is said with the limit in
decimal. -/
def wordsWithin (image : Image) (region : Region) : Except Fault (List Word) :=
  if (image.size : Int) < region.limit then
    .error (Capacity.naming region.limit (.bounds (.imageTooShort image.size region.limit)))
  else .ok (image.words region)

/-- The words of a region of an image, after the checks of the region and of the image's length. -/
def programWords (image : Image) (region : Region) : Except Fault (List Word) := do
  region.check
  image.wordsWithin region

end Image

/-- The words of a region of memory that is handed over as cells. The region is checked first, then
the cells, then their number. -/
def Cells.programWords (cells : Cells) (region : Region) : Except Fault (List Word) := do
  region.check
  let image ← Image.ofCells cells
  image.wordsWithin region

end Chip8
