import Chip8.Fault

/-!
# Capacity

Sizes, widths and lengths are integers without a limit, but a text, a list or an image is not made
for every one of them. Lengths are counted by indices of 63 bits, and how much fits into memory is up
to the machine. The two limits are told apart, since running into them is reported differently.

A number of very many digits is not written in decimal. A fault that would name such a number gives
way to the one of not being able to.
-/

namespace Chip8

/-- One more than the largest index. -/
def Capacity.indexLimit : Nat := Nat.pow 2 63

/-- The memory that there is on a machine: room for what sixteen bits can address, and for no more
than an index can count. -/
class Capacity where
  /-- The least number of bytes for which there is no memory. -/
  memoryLimit : Nat
  addresses_lt_memoryLimit : 0x10000 < memoryLimit
  memoryLimit_le_indexLimit : memoryLimit ≤ Capacity.indexLimit

namespace Capacity

/-- A machine on which what takes a tebibyte or more does not fit into memory. -/
@[reducible] def tebibyte : Capacity where
  memoryLimit := Nat.pow 2 40
  addresses_lt_memoryLimit := by decide
  memoryLimit_le_indexLimit := by decide

/-- Refuses a text that is too long to be made. -/
def checkText [Capacity] (length : Nat) : Except Fault Unit :=
  if indexLimit ≤ length then .error (.textBeyondIndex length)
  else if memoryLimit ≤ length then .error (.textTooLarge length)
  else .ok ()

/-- The number of bytes that an item takes in a list. -/
def itemSize : Nat := 8

/-- Refuses a list for whose items no room can be made. -/
def checkList [Capacity] (length : Int) : Except Fault Unit :=
  if length < 0 then .error (.negativeLength length)
  else if indexLimit ≤ length.toNat then .error (.listBeyondIndex length.toNat)
  else if memoryLimit ≤ itemSize * length.toNat then .error (.listTooLarge length.toNat)
  else .ok ()

/-- The size of an image, as a number of bytes. -/
def imageSize [Capacity] (size : Int) : Except Fault Nat :=
  if size < 0 ∨ (indexLimit : Int) ≤ size then .error (.noSize size)
  else if memoryLimit ≤ size.toNat then .error (.imageTooLarge size.toNat)
  else .ok size.toNat

/-- There is some memory. -/
theorem memoryLimit_pos [Capacity] : 0 < memoryLimit := by
  have := addresses_lt_memoryLimit
  omega

/-- Texts short enough for memory are made. -/
theorem checkText_eq_ok_iff [Capacity] (length : Nat) :
    checkText length = .ok () ↔ length < memoryLimit := by
  have below := memoryLimit_le_indexLimit
  unfold checkText
  split
  · simp; omega
  · split <;> simp <;> omega

/-! ## Numbers in decimal -/

/-- The most digits that a decimal number can have in a text, be it read or shown. -/
def digitLimit : Nat := 4300

/-- Whether a number is short enough to be written in decimal. Its sign does not count. -/
def IsShown (n : Int) : Prop :=
  (Numeral.digits .decimal n).length ≤ digitLimit

instance (n : Int) : Decidable (IsShown n) :=
  inferInstanceAs (Decidable (_ ≤ _))

/-- A number in decimal, if it is short enough for that. -/
def decimal (n : Int) : Except Fault String :=
  if IsShown n then .ok (Numeral.decimal n) else .error .tooLongToShow

/-- A fault that names a number in decimal, or the one of not being able to. -/
def naming (n : Int) (fault : Fault) : Fault :=
  if IsShown n then fault else .tooLongToShow

/-- The numbers that are shown are those below a power of ten, whatever their sign. -/
theorem isShown_iff (n : Int) : IsShown n ↔ n.natAbs < Nat.pow 10 digitLimit := by
  have hdigits : ∀ limit, 0 < limit →
      ((Nat.toDigits 10 n.natAbs).length ≤ limit ↔ n.natAbs < Nat.pow 10 limit) :=
    fun limit hlimit => Nat.length_toDigits_le_iff (by decide) hlimit
  exact hdigits digitLimit (by decide)

/-- Every index is shown. -/
theorem isShown_of_lt_indexLimit {n : Int} (h : n.natAbs < indexLimit) : IsShown n := by
  have hindex : indexLimit ≤ Nat.pow 10 19 := by decide
  have hpower : ∀ limit, 19 ≤ limit → Nat.pow 10 19 ≤ Nat.pow 10 limit :=
    fun limit => Nat.pow_le_pow_right (by decide)
  exact (isShown_iff n).mpr (Nat.lt_of_lt_of_le h (Nat.le_trans hindex (hpower _ (by decide))))

/-- The least power of ten that is not shown. -/
theorem not_isShown_pow : ¬IsShown (Int.pow 10 digitLimit) := by
  have habs : ∀ k, (Int.pow 10 k).natAbs = Nat.pow 10 k := Int.natAbs_pow 10
  rw [isShown_iff, habs]
  exact Nat.lt_irrefl _

/-- The sign makes no difference. -/
theorem isShown_neg (n : Int) : IsShown (-n) ↔ IsShown n := by
  rw [isShown_iff, isShown_iff, Int.natAbs_neg]

/-- Numbers are written one after the other, if all of them are short enough. -/
theorem mapM_decimal (values : List Int) :
    values.mapM decimal =
      if ∀ value ∈ values, IsShown value then .ok (values.map Numeral.decimal)
      else .error .tooLongToShow := by
  induction values with
  | nil => rfl
  | cons value rest ih =>
    rw [List.mapM_cons, ih, decimal]
    simp only [List.forall_mem_cons]
    by_cases hvalue : IsShown value
    · by_cases hrest : ∀ other ∈ rest, IsShown other
      · rw [if_pos hvalue, if_pos hrest, if_pos ⟨hvalue, hrest⟩]
        rfl
      · have hsome : ¬(IsShown value ∧ ∀ other ∈ rest, IsShown other) := fun h => hrest h.2
        rw [if_pos hvalue, if_neg hrest, if_neg hsome]
        rfl
    · have hsome : ¬(IsShown value ∧ ∀ other ∈ rest, IsShown other) := fun h => hvalue h.1
      rw [if_neg hvalue, if_neg hsome]
      rfl

end Capacity

end Chip8
