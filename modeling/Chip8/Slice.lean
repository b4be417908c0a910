/-!
# Signed slices

A slice is given by two signed bounds. A bound that is not negative counts from the front, a
negative one from the end, and either is clamped to the sequence, so every pair of bounds gives a
slice; bounds in the wrong order give the empty one.
-/

namespace Chip8

namespace Slice

/-- Where a signed bound falls in a sequence of `length` items. -/
def bound (length : Nat) (i : Int) : Nat :=
  if i < 0 then (length + i).toNat else min i.toNat length

/-- A bound from the front that does not pass the end is taken as it is. -/
theorem bound_of_le {length : Nat} {i : Int} (h0 : 0 ≤ i) (h : i ≤ length) :
    bound length i = i.toNat := by
  unfold bound; split <;> omega

/-- The positions of every other item from one signed bound up to, and without, the other. The first
position is one of them. -/
def alternate (length : Nat) (start stop : Int) : List Nat :=
  List.range' (bound length start) ((bound length stop - bound length start + 1) / 2) 2

/-- The items from one signed bound up to, and without, the other. -/
def select {α : Type} (items : List α) (start stop : Int) : List α :=
  (items.take (bound items.length stop)).drop (bound items.length start)

end Slice

end Chip8
