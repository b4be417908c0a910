import Chip8.Capacity
import Chip8.Slice
import Chip8.Word

/-!
# Memory images

An image is a run of bytes. Callers hand memory over as cells, integers that need not be bytes yet;
`Image.ofCells` accepts them only if all of them are. A single word can be read from cells as they
are, since only the low eight bits of each count.

Storing a program is an overlay: the bytes under the program are replaced and no other byte changes.
A base below zero counts from the end of memory, as a signed slice does.
-/

namespace Chip8

/-- Memory as it is handed over: one integer for each address. -/
abbrev Cells := Array Int

/-- A run of bytes, the first at address zero. -/
structure Image where
  bytes : Array UInt8
deriving DecidableEq

/-- Whether an integer is the value of a byte. -/
def isByte (value : Int) : Bool :=
  0 ≤ value && value ≤ 255

/-- The word whose high byte is at `address`. Both its cells have to exist. -/
def Cells.readWord (cells : Cells) (address : Int) : Except Fault Word :=
  if address < 0 ∨ (cells.size : Int) ≤ address + 1 then
    .error (.bounds (.wordOutside address cells.size))
  else
    .ok (Word.pack (cells.getD address.toNat 0) (cells.getD (address.toNat + 1) 0))

namespace Image

/-- How many bytes an image has. -/
def size (image : Image) : Nat :=
  image.bytes.size

/-- The byte at an address, as a number; zero beyond the end. -/
def byteAt (image : Image) (address : Nat) : Nat :=
  (image.bytes.getD address 0).toNat

/-- The image as cells. -/
def cells (image : Image) : Cells :=
  image.bytes.map fun byte => (byte.toNat : Int)

/-- The image with the given cells, all of which have to be bytes. -/
def ofCells (cells : Cells) : Except Fault Image :=
  match cells.find? (fun value => !isByte value) with
  | some value => .error (.notAByte value)
  | none => .ok ⟨cells.map fun value => UInt8.ofNat value.toNat⟩

/-- Memory of the given size with zero in every byte. -/
def zeroed [Capacity] (size : Int) : Except Fault Image := do
  return ⟨Array.replicate (← Capacity.imageSize size) 0⟩

/-- The image with `program` laid over the addresses from `start` up to `stop`. -/
def overlay (image program : Image) (start stop : Nat) : Image :=
  ⟨image.bytes.mapIdx fun address byte =>
    if start ≤ address ∧ address < stop then program.bytes.getD (address - start) byte else byte⟩

/-- Stores a program in the signed slice that starts at `base` and is as long as the program. Where
that slice comes out empty nothing is stored, and where it is cut short the program is refused. -/
def store (image program : Image) (base : Int) : Except Fault Image :=
  let start := Slice.bound image.size base
  let stop := Slice.bound image.size (base + program.size)
  if stop ≤ start then .ok image
  else if stop - start = program.size then .ok (image.overlay program start stop)
  else .error (.partialStore (stop - start) program.size)

/-- Loads a program at `base`. It must not reach past the end of memory, which is checked before its
cells are. -/
def load (image : Image) (program : Cells) (base : Int) : Except Fault Image :=
  if (image.size : Int) < base + program.size then
    .error (.bounds (.programTooLong program.size base image.size))
  else do
    image.store (← ofCells program) base

/-- The bytes between two signed bounds. -/
def part (image : Image) (start stop : Int) : Array UInt8 :=
  image.bytes.extract (Slice.bound image.size start) (Slice.bound image.size stop)

/-- Every other byte between two signed bounds, as a number. -/
def alternate (image : Image) (start stop : Int) : List Nat :=
  (Slice.alternate image.size start stop).map image.byteAt

@[simp] theorem size_overlay (image program : Image) (start stop : Nat) :
    (image.overlay program start stop).size = image.size := by
  simp [overlay, size]

/-- Under the program an overlay shows the program, and everywhere else the memory as it was. -/
theorem byteAt_overlay (image program : Image) (start address : Nat)
    (fits : start + program.size ≤ image.size) :
    (image.overlay program start (start + program.size)).byteAt address =
      if start ≤ address ∧ address < start + program.size then program.byteAt (address - start)
      else image.byteAt address := by
  simp only [size] at fits
  simp only [byteAt, overlay, size, Array.getD_eq_getD_getElem?, Array.getElem?_mapIdx]
  by_cases inside : start ≤ address ∧ address < start + program.bytes.size
  · have below : address - start < program.bytes.size := by omega
    have within : address < image.bytes.size := by omega
    simp [inside, below, within]
  · rcases h : image.bytes[address]? with _ | byte <;> simp [inside]

end Image

end Chip8
