import Chip8.Proofs.Fetch

/-!
# Programs in memory

A program is loaded into memory as a signed slice: bounds may be negative, slices may come out empty,
and a slice that is cut short refuses the program. For a base that is not negative none of that shows.
`Image.load_of_fits` says what loading does then: a program that fits replaces the bytes under it and
no others.

Into memory that is all zero it leaves nothing but itself: `Image.load_zeroed` says that the image is
zeros up to the base, the program, and zeros up to the end. `Image.agreeOn_placed_iff` says what can
be told from such an image: the program, but for zeros at its end.
-/

namespace Chip8

namespace Image

/-- An image is its bytes. -/
theorem ext_byteAt {image other : Image} (hsize : image.size = other.size)
    (hbytes : ∀ address < image.size, image.byteAt address = other.byteAt address) :
    image = other := by
  obtain ⟨bytes⟩ := image
  obtain ⟨bytes'⟩ := other
  have hequal : bytes = bytes' := by
    apply Array.ext hsize
    intro i hi hi'
    have hbyte := hbytes i hi
    simp only [byteAt, UInt8.toNat_inj] at hbyte
    simpa [Array.getD, hi, hi'] using hbyte
  rw [hequal]

theorem byteAt_of_size_le (image : Image) {address : Nat} (h : image.size ≤ address) :
    image.byteAt address = 0 := by
  unfold size at h
  simp [byteAt, Array.getD, show ¬address < image.bytes.size by omega]

/-! ## Zeroed memory -/

/-- Memory of every size below the limit is made, and every byte of it is zero. -/
theorem zeroed_eq_ok_iff [Capacity] (size : Int) (image : Image) :
    zeroed size = .ok image ↔
      0 ≤ size ∧ size < Capacity.memoryLimit ∧ image = ⟨Array.replicate size.toNat 0⟩ := by
  have hlimits := Capacity.memoryLimit_le_indexLimit
  rw [zeroed, Fault.bind_eq_ok_iff, Capacity.imageSize]
  split
  next hsize =>
    constructor
    · rintro ⟨_, hfault, _⟩
      cases hfault
    · rintro ⟨h0, hlimit, _⟩
      omega
  next hsize =>
    split
    next hlarge =>
      constructor
      · rintro ⟨_, hfault, _⟩
        cases hfault
      · rintro ⟨h0, hlimit, _⟩
        omega
    next hlarge =>
      constructor
      · rintro ⟨_, hcount, himage⟩
        cases hcount
        cases himage
        exact ⟨by omega, by omega, rfl⟩
      · rintro ⟨_, _, rfl⟩
        exact ⟨_, rfl, rfl⟩

theorem size_zeroed [Capacity] {size : Int} {image : Image} (h : zeroed size = .ok image) :
    (image.size : Int) = size := by
  obtain ⟨h0, _, rfl⟩ := (zeroed_eq_ok_iff size image).mp h
  simp only [Image.size, Array.size_replicate]
  omega

theorem byteAt_zeros (count address : Nat) : byteAt ⟨Array.replicate count 0⟩ address = 0 := by
  simp [byteAt, Array.getD]

/-! ## Loading -/

/-- The bytes of an image are loaded unless they reach past the end of memory. -/
theorem load_cells (image program : Image) (base : Int) :
    image.load program.cells base =
      if (image.size : Int) < base + program.size then
        .error (.bounds (.programTooLong program.size base image.size))
      else image.store program base := by
  rw [load, size_cells, ofCells_cells]
  rfl

/-- A program that fits replaces the bytes under it, and no others. -/
theorem load_of_fits (image program : Image) {base : Int} (h0 : 0 ≤ base)
    (hfits : base + program.size ≤ image.size) :
    ∃ out, image.load program.cells base = .ok out ∧ out.size = image.size ∧
      ∀ address, out.byteAt address =
        if base.toNat ≤ address ∧ address < base.toNat + program.size then
          program.byteAt (address - base.toNat)
        else image.byteAt address := by
  have hstart : Slice.bound image.size base = base.toNat := Slice.bound_of_le h0 (by omega)
  have hstop : Slice.bound image.size (base + program.size) = base.toNat + program.size := by
    rw [Slice.bound_of_le (by omega) hfits]
    omega
  rw [load_cells, if_neg (by omega), store, hstart, hstop]
  by_cases hempty : program.size = 0
  · -- the slice of an empty program is empty, and nothing is stored
    refine ⟨image, if_pos (by omega), rfl, fun address => ?_⟩
    rw [if_neg (by omega)]
  · refine ⟨image.overlay program base.toNat (base.toNat + program.size), ?_, by simp, ?_⟩
    · rw [if_neg (by omega), if_pos (by omega)]
    · intro address
      exact image.byteAt_overlay program base.toNat address (by omega)

/-! ## A program in zeroed memory -/

/-- The image with zeros behind it, up to a length. -/
def padded (image : Image) (length : Nat) : Image :=
  ⟨image.bytes ++ Array.replicate (length - image.size) 0⟩

/-- Memory that ends where a region does, and is zero but for a program at the region's base. -/
def placed (program : Image) (region : Region) : Image :=
  ⟨Array.replicate region.base.toNat 0 ++
    (program.padded (region.limit - region.base).toNat).bytes⟩

theorem size_padded (image : Image) (length : Nat) (h : image.size ≤ length) :
    (image.padded length).size = length := by
  simp only [padded, size, Array.size_append, Array.size_replicate] at h ⊢
  omega

/-- Zeros at the end are what is read there anyway. -/
theorem byteAt_padded (image : Image) (length address : Nat) :
    (image.padded length).byteAt address = image.byteAt address := by
  simp only [padded, byteAt, Array.getD_eq_getD_getElem?]
  by_cases h : address < image.bytes.size
  · rw [Array.getElem?_append_left h]
  · rw [Array.getElem?_append_right (by omega), Array.getElem?_replicate,
      Array.getElem?_eq_none (by omega)]
    split <;> rfl

theorem size_placed (program : Image) {region : Region} (h0 : 0 ≤ region.base)
    (hfits : region.base + program.size ≤ region.limit) :
    ((program.placed region).size : Int) = region.limit := by
  have hpadded := program.size_padded (region.limit - region.base).toNat (by omega)
  unfold size at hpadded
  simp only [placed, size, Array.size_append, Array.size_replicate, hpadded]
  omega

theorem byteAt_placed (program : Image) (region : Region) (address : Nat) :
    (program.placed region).byteAt address =
      if address < region.base.toNat then 0 else program.byteAt (address - region.base.toNat) := by
  rw [← byteAt_padded program (region.limit - region.base).toNat]
  simp only [placed, byteAt, Array.getD_eq_getD_getElem?]
  split
  next h =>
    rw [Array.getElem?_append_left (by simpa using h), Array.getElem?_replicate, if_pos h]
    rfl
  next h => rw [Array.getElem?_append_right (by simpa using h), Array.size_replicate]

/-- Loaded into zeroed memory, a program stands among zeros. -/
theorem load_zeroed [Capacity] (program : Image) (region : Region) {memory : Image}
    (hmemory : zeroed region.limit = .ok memory) (h0 : 0 ≤ region.base)
    (hfits : region.base + program.size ≤ region.limit) :
    memory.load program.cells region.base = .ok (program.placed region) := by
  obtain ⟨hlimit, _, rfl⟩ := (zeroed_eq_ok_iff region.limit memory).mp hmemory
  have hsize : size ⟨Array.replicate region.limit.toNat 0⟩ = region.limit.toNat := by simp [size]
  obtain ⟨out, hout, hsame, hbytes⟩ :=
    load_of_fits ⟨Array.replicate region.limit.toNat 0⟩ program h0 (by omega)
  have hplaced := program.size_placed h0 hfits
  rw [hout]
  congr 1
  apply ext_byteAt
  · omega
  · intro address _
    rw [hbytes, byteAt_placed, byteAt_zeros]
    split
    next h => rw [if_neg (by omega)]
    next h =>
      split
      next => rfl
      next hbase => rw [byteAt_of_size_le program (by omega)]

/-- Two programs in zeroed memory that have the same bytes in the region are the same, but for zeros
at the end. -/
theorem agreeOn_placed_iff {program other : Image} {region : Region} (h0 : 0 ≤ region.base)
    (hfits : region.base + program.size ≤ region.limit)
    (hfits' : region.base + other.size ≤ region.limit) :
    AgreeOn region (program.placed region) (other.placed region) ↔
      program.padded (region.limit - region.base).toNat =
        other.padded (region.limit - region.base).toNat := by
  have hsize := program.size_padded (region.limit - region.base).toNat (by omega)
  have hsize' := other.size_padded (region.limit - region.base).toNat (by omega)
  constructor
  · intro hagree
    apply ext_byteAt (hsize.trans hsize'.symm)
    intro address haddress
    -- a byte of the program is found at its distance from the base
    have hbyte := hagree (region.base.toNat + address) (by omega) (by omega)
    rw [byteAt_placed, byteAt_placed, if_neg (by omega), if_neg (by omega),
      show region.base.toNat + address - region.base.toNat = address by omega] at hbyte
    rw [byteAt_padded, byteAt_padded, hbyte]
  · intro hpadded address _ _
    rw [placed, placed, hpadded]

end Image

end Chip8
