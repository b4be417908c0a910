import Chip8.Memory.Image

/-!
# Memory of several extents

Memory can be asked for as an array with any number of dimensions. A program is put into the rows of
such memory, counted by its first extent, and every row of the program's part takes the program as a
whole. A listing cannot be made of it, so that only the checks on the way there are of interest.
-/

namespace Chip8

namespace Extents

/-- The extents as numbers of items, if there is memory for the array. -/
def ofSizes [Capacity] (sizes : List Int) : Except Fault (List Nat) :=
  match sizes.find? fun size => size < 0 || (Capacity.indexLimit : Int) ≤ size with
  | some size => .error (.noSize size)
  | none =>
    let extents := sizes.map Int.toNat
    let total := extents.foldr (· * ·) 1
    if Capacity.memoryLimit ≤ total then .error (.imageTooLarge total) else .ok extents

/-- Whether a program of the given length fills a part of an array: there is nothing to fill, its
single byte fills it, or it is as long as the last extent of the part. -/
def fills (length : Nat) (part : List Nat) : Bool :=
  part.contains 0 || length == 1 || part.getLast? == some length

/-- Loads a program of the given length at `base` into rows of the given shape. -/
def load (rows : Nat) (shape : List Nat) (length : Nat) (base : Int) : Except Fault Unit :=
  if (rows : Int) < base + length then
    .error (.bounds (.programTooLong length base rows))
  else
    let room := Slice.bound rows (base + length) - Slice.bound rows base
    if fills length (room :: shape) then .ok () else .error (.partialStore room length)

end Extents

end Chip8
