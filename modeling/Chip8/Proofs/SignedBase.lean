import Chip8.Proofs.Loading

/-!
# Programs loaded below zero

A program is refused if it reaches past the end of memory, but nothing looks at the other end. A base
below zero is a signed bound like any other, and counts from the end of memory. This file says what
becomes of a program there, for every base and every size of memory.

`Image.Stands` is what loading is for: the program is in memory at its base and nothing else has
changed. Below zero it is never reached. Where the slice that is meant lies inside memory the program
stands at the wrong place (`Image.load_wrapped`); where it comes out empty the program is lost and
memory is as it was (`Image.load_lost`); and only where the slice is cut short is the program refused
(`Image.load_cut`). `Image.below_cases` says that there is nothing else.

The main statement is `Image.load_honest_iff`, which says exactly for which bases an image that is
returned can be trusted.
-/

namespace Chip8

namespace Image

/-- The program stands in memory at its base, and no other byte has changed. -/
structure Stands (image program : Image) (base : Int) (out : Image) : Prop where
  nonneg : 0 ≤ base
  fits : base + program.size ≤ image.size
  size_eq : out.size = image.size
  inside : ∀ i < program.size, out.byteAt (base.toNat + i) = program.byteAt i
  outside : ∀ address : Nat, ¬(base ≤ address ∧ (address : Int) < base + program.size) →
    out.byteAt address = image.byteAt address

/-- The slice of a program below zero lies inside memory, counted from the end. -/
def Wrapped (size length : Nat) (base : Int) : Prop :=
  -size ≤ base ∧ base + length < 0

/-- The slice of a program below zero is empty: it ends before memory begins, or at zero, or it ends
from the front before it starts from the end. -/
def Lost (size length : Nat) (base : Int) : Prop :=
  base < 0 ∧ (base + length ≤ -size ∨ base + length = 0 ∨ 0 < base + length ∧ length ≤ size)

/-- The slice of a program below zero is cut short at one end of memory. -/
def Cut (size length : Nat) (base : Int) : Prop :=
  base < -size ∧ -size < base + length ∧ base + length < 0 ∨
    base < 0 ∧ 0 < base + length ∧ size < length

/-- Below zero a program is at the wrong place, lost, or cut short. -/
theorem below_cases (size length : Nat) {base : Int} (h : base < 0) :
    Wrapped size length base ∨ Lost size length base ∨ Cut size length base := by
  unfold Wrapped Lost Cut
  omega

/-- Reading the program between its ends, and memory elsewhere, is what standing means. -/
theorem Stands.of_byteAt {image program out : Image} {base : Int} (h0 : 0 ≤ base)
    (hfits : base + program.size ≤ image.size) (hsize : out.size = image.size)
    (hread : ∀ address, out.byteAt address =
      if base.toNat ≤ address ∧ address < base.toNat + program.size then
        program.byteAt (address - base.toNat)
      else image.byteAt address) :
    Stands image program base out := by
  refine ⟨h0, hfits, hsize, ?_, ?_⟩
  · intro i hi
    rw [hread, if_pos (by omega), Nat.add_sub_cancel_left]
  · intro address houtside
    rw [hread, if_neg (by omega)]

/-! ## One lemma for each outcome -/

/-- At a base that is not negative a program that fits stands there. -/
theorem load_stands {image program : Image} {base : Int} (h0 : 0 ≤ base)
    (hfits : base + program.size ≤ image.size) :
    ∃ out, image.load program.cells base = .ok out ∧ Stands image program base out := by
  obtain ⟨out, hout, hsize, hread⟩ := image.load_of_fits program h0 hfits
  exact ⟨out, hout, Stands.of_byteAt h0 hfits hsize hread⟩

/-- At no base does a program that is taken reach past the end of memory. -/
theorem fits_of_load {image program out : Image} {base : Int}
    (h : image.load program.cells base = .ok out) : base + program.size ≤ image.size := by
  rw [load_cells] at h
  split at h
  next => cases h
  next hfits => omega

/-- The program stands as far from the end of memory as its base is from zero. -/
theorem load_wrapped {image program : Image} (hne : 0 < program.size) {base : Int}
    (h : Wrapped image.size program.size base) :
    ∃ out, image.load program.cells base = .ok out ∧
      Stands image program (image.size + base) out := by
  obtain ⟨hstart, hend⟩ := h
  refine ⟨_, ?_, Stands.of_byteAt (by omega) (by omega) (image.size_overlay program _ _)
    fun address => image.byteAt_overlay program (image.size + base).toNat address (by omega)⟩
  have hfrom : Slice.bound image.size base = (image.size + base).toNat := by
    unfold Slice.bound
    rw [if_pos (by omega)]
  have hto : Slice.bound image.size (base + program.size) =
      (image.size + base).toNat + program.size := by
    unfold Slice.bound
    rw [if_pos (by omega)]
    omega
  rw [load_cells, if_neg (by omega), store, hfrom, hto, if_neg (by omega), if_pos (by omega)]

/-- Nothing is stored, and nothing is said. -/
theorem load_lost {image program : Image} {base : Int} (h : Lost image.size program.size base) :
    image.load program.cells base = .ok image := by
  obtain ⟨hbelow, hempty⟩ := h
  have hslice : Slice.bound image.size (base + program.size) ≤ Slice.bound image.size base := by
    unfold Slice.bound
    rw [if_pos hbelow]
    split
    · omega
    · omega
  rw [load_cells, if_neg (by omega), store, if_pos hslice]

/-- A program that is cut short is refused, or it reaches past the end of memory. -/
theorem load_cut {image program : Image} {base : Int} (h : Cut image.size program.size base) :
    ∃ fault, image.load program.cells base = .error fault := by
  rw [load_cells]
  by_cases hlong : (image.size : Int) < base + program.size
  · exact ⟨_, if_pos hlong⟩
  · rw [if_neg hlong, store]
    unfold Cut at h
    have hslice : ¬Slice.bound image.size (base + program.size) ≤ Slice.bound image.size base := by
      unfold Slice.bound
      rw [if_pos (show base < 0 by omega)]
      split
      · omega
      · omega
    have hshort : ¬Slice.bound image.size (base + program.size) - Slice.bound image.size base =
        program.size := by
      unfold Slice.bound
      rw [if_pos (show base < 0 by omega)]
      split
      · omega
      · omega
    exact ⟨_, by rw [if_neg hslice, if_neg hshort]⟩

/-- **When an image that is returned can be trusted.** For a program that is not empty, loading never
returns an image in which the program does not stand exactly if the base is not negative or the slice
that it means is cut short. At a base that is not negative the program is taken exactly if it fits.
Below zero it stands at the wrong place wherever its slice lies inside memory, and memory comes back
unchanged wherever that slice is empty. -/
theorem load_honest_iff (image program : Image) (hne : 0 < program.size) (base : Int) :
    ((∀ out, image.load program.cells base = .ok out → Stands image program base out) ↔
      0 ≤ base ∨ Cut image.size program.size base) ∧
    (0 ≤ base →
      ((∃ out, image.load program.cells base = .ok out) ↔ base + program.size ≤ image.size)) ∧
    (Wrapped image.size program.size base →
      ∃ out, image.load program.cells base = .ok out ∧
        Stands image program (image.size + base) out) ∧
    (Lost image.size program.size base → image.load program.cells base = .ok image) := by
  refine ⟨⟨?_, ?_⟩, ?_, load_wrapped hne, load_lost⟩
  · intro hhonest
    by_cases h0 : 0 ≤ base
    · exact Or.inl h0
    · refine Or.inr ?_
      -- an image that comes back from below zero cannot have the program at its base
      have hnever : ∀ out, image.load program.cells base ≠ .ok out := by
        intro out hout
        exact h0 (hhonest out hout).nonneg
      rcases below_cases image.size program.size (show base < 0 by omega) with hwrap | hlost | hcut
      · obtain ⟨out, hout, _⟩ := load_wrapped hne hwrap
        exact absurd hout (hnever out)
      · exact absurd (load_lost hlost) (hnever image)
      · exact hcut
  · rintro (h0 | hcut) out hout
    · obtain ⟨placed, hplaced, hstands⟩ := load_stands h0 (fits_of_load hout)
      cases hout.symm.trans hplaced
      exact hstands
    · obtain ⟨fault, hfault⟩ := load_cut hcut
      cases hout.symm.trans hfault
  · intro h0
    constructor
    · rintro ⟨out, hout⟩
      exact fits_of_load hout
    · intro hfits
      obtain ⟨out, hout, _⟩ := load_stands h0 hfits
      exact ⟨out, hout⟩

/-- Two bytes at the end of four stand there, and three before zero they do not. -/
theorem load_honest_iff_last_two :
    0 < size ⟨#[7, 8]⟩ ∧
    (∃ out, load ⟨#[0, 0, 0, 0]⟩ (cells ⟨#[7, 8]⟩) 2 = .ok out ∧
      Stands ⟨#[0, 0, 0, 0]⟩ ⟨#[7, 8]⟩ 2 out) ∧
    ¬∀ out, load ⟨#[0, 0, 0, 0]⟩ (cells ⟨#[7, 8]⟩) (-3) = .ok out →
      Stands ⟨#[0, 0, 0, 0]⟩ ⟨#[7, 8]⟩ (-3) out := by
  obtain ⟨hhonest, htaken, _⟩ := load_honest_iff ⟨#[0, 0, 0, 0]⟩ ⟨#[7, 8]⟩ (by decide) 2
  obtain ⟨out, hout⟩ := (htaken (by decide)).mpr (by decide)
  refine ⟨by decide, ⟨out, hout, hhonest.mpr (Or.inl (by decide)) out hout⟩, ?_⟩
  rw [(load_honest_iff ⟨#[0, 0, 0, 0]⟩ ⟨#[7, 8]⟩ (by decide) (-3)).1]
  unfold Cut
  decide

/-- One byte, one before zero, is lost; two bytes, three before zero, end up at one and two. Both times
an image comes back and nothing is said. -/
theorem load_silent_below_zero :
    load ⟨#[0, 0, 0, 0]⟩ (cells ⟨#[7]⟩) (-1) = .ok ⟨#[0, 0, 0, 0]⟩ ∧
    (∃ out, load ⟨#[0, 0, 0, 0]⟩ (cells ⟨#[7, 8]⟩) (-3) = .ok out ∧
      out.byteAt 1 = 7 ∧ out.byteAt 2 = 8) ∧
    ¬∀ (image program : Image) (base : Int) (out : Image), 0 < program.size →
      image.load program.cells base = .ok out → Stands image program base out := by
  have hlost : Lost (size ⟨#[0, 0, 0, 0]⟩) (size ⟨#[7]⟩) (-1) :=
    ⟨by decide, Or.inr (Or.inl (by decide))⟩
  have hwrapped : Wrapped (size ⟨#[0, 0, 0, 0]⟩) (size ⟨#[7, 8]⟩) (-3) :=
    ⟨by decide, by decide⟩
  obtain ⟨out, hout, hstands⟩ := load_wrapped (by decide) hwrapped
  have hone : out.byteAt 1 = 7 := hstands.inside 0 (by decide)
  have htwo : out.byteAt 2 = 8 := hstands.inside 1 (by decide)
  refine ⟨load_lost hlost, ⟨out, hout, hone, htwo⟩, ?_⟩
  intro hall
  exact absurd (hall _ _ _ _ (by decide) (load_lost hlost)).nonneg (by decide)

end Image

end Chip8
