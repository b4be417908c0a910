import Mathlib.Data.Int.Bitwise
import Mathlib.Data.Int.ModEq
import Chip8.Proofs.Manual

/-!
# Fields as bits

A word's fields are taken by division and remainder. Seen as bits, each is a run of consecutive bits
of the word: everything else is masked out, and what is left is moved down. `BitFields.ofInt` cuts
the fields that way out of any integer, negative or longer than a word, in two's complement, and
`BitFields.pack` joins two bytes by a shift and a disjunction. Neither divides.

`BitFields.ofInt_eq` and `BitFields.pack_eq` say that bits and digits come to the same for all
integers. One fact carries both: a mask of ones from the lowest bit up leaves the remainder by a
power of two, below zero as well (`BitFields.land_ones`). After the first mask all numbers are
natural.

`Word.fields_positional` is the account of a word: its digits, their bounds, when two integers are
the same word, and how a word and its two bytes make each other.
-/

namespace Chip8

/-- All fields of a word, as they are cut out of its bits. -/
structure BitFields where
  raw : Int
  group : Int
  x : Int
  y : Int
  n : Int
  nn : Int
  nnn : Int
deriving DecidableEq, Repr

namespace BitFields

/-- The fields of an integer by masks and shifts of its two's complement. -/
def ofInt (value : Int) : BitFields :=
  let raw := Int.land value 0xFFFF
  { raw
    group := Int.land raw 0xF000 >>> (12 : Nat)
    x := Int.land raw 0x0F00 >>> (8 : Nat)
    y := Int.land raw 0x00F0 >>> (4 : Nat)
    n := Int.land raw 0x000F
    nn := Int.land raw 0x00FF
    nnn := Int.land raw 0x0FFF }

/-- Two bytes as one number: the low eight bits of the one moved up, and those of the other in the
place that became free. -/
def pack (high low : Int) : Int :=
  Int.lor (Int.land high 0xFF <<< (8 : Nat)) (Int.land low 0xFF)

/-- The fields that a word has by division and remainder. -/
def ofWord (w : Word) : BitFields :=
  ⟨w.raw, w.group, w.x, w.y, w.n, w.nn, w.nnn⟩

/-! ## Masks and shifts -/

/-- The low bits of `m` turned over are as many ones, less the remainder that the bits write. -/
theorem ldiff_ones (m width : Nat) :
    Nat.ldiff (2 ^ width - 1) m = 2 ^ width - (m % 2 ^ width + 1) := by
  have hlt : m % 2 ^ width < 2 ^ width := Nat.mod_lt m (Nat.two_pow_pos width)
  apply Nat.eq_of_testBit_eq
  intro i
  rw [Nat.testBit_ldiff, Nat.testBit_two_pow_sub_succ hlt, Nat.testBit_two_pow_sub_one,
    Nat.testBit_mod_two_pow]
  cases decide (i < width) <;> simp

/-- Ones from the lowest bit up mask out all but the remainder by a power of two. -/
theorem land_ones (value : Int) (width : Nat) :
    Int.land value ((2 ^ width - 1 : Nat) : Int) = value % ((2 ^ width : Nat) : Int) := by
  cases value with
  | ofNat m =>
    show ((m &&& (2 ^ width - 1) : Nat) : Int) = (m : Int) % ((2 ^ width : Nat) : Int)
    rw [Nat.and_two_pow_sub_one_eq_mod, Int.natCast_emod]
  | negSucc m =>
    -- in two's complement the bits below zero are those of `m` turned over
    have hpos : 0 < 2 ^ width := Nat.two_pow_pos width
    have hlt : m % 2 ^ width < 2 ^ width := Nat.mod_lt m hpos
    show ((Nat.ldiff (2 ^ width - 1) m : Nat) : Int) = _
    rw [ldiff_ones, Int.negSucc_emod m (Int.natCast_pos.mpr hpos), ← Int.natCast_emod]
    omega

/-- Masking a run of bits and moving it down leaves the digit that they write. -/
theorem land_run (value low width : Nat) :
    Int.land value (((2 ^ width - 1) <<< low : Nat) : Int) >>> low =
      ((value / 2 ^ low % 2 ^ width : Nat) : Int) := by
  show (((value &&& (2 ^ width - 1) <<< low) >>> low : Nat) : Int) = _
  rw [Nat.shiftRight_and_distrib, Nat.shiftLeft_shiftRight, Nat.and_two_pow_sub_one_eq_mod,
    Nat.shiftRight_eq_div_pow]

/-- The low sixteen bits of an integer are its word. -/
theorem land_word (value : Int) : Int.land value 0xFFFF = ((Word.ofInt value).raw : Int) := by
  rw [Word.ofInt_raw]
  exact land_ones value 16

/-- The low eight bits of an integer. -/
theorem land_byte (value : Int) : Int.land value 0xFF = ((value % 256).toNat : Int) := by
  rw [Int.toNat_of_nonneg (Int.emod_nonneg value (by decide))]
  exact land_ones value 8

/-- The bits of an integer write the fields of its word. -/
theorem ofInt_eq (value : Int) : ofInt value = ofWord (Word.ofInt value) := by
  have hword : Int.land value 0xFFFF = ((Word.ofInt value).raw : Int) := land_word value
  generalize Word.ofInt value = w at hword
  -- nothing stands above the group, so that its mask takes off nothing
  have hgroup : w.raw / 2 ^ 12 % 2 ^ 4 = w.group := by
    have := w.raw_lt
    unfold Word.group
    omega
  simp only [ofInt, ofWord, hword, mk.injEq, true_and]
  refine ⟨?_, land_run w.raw 8 4, land_run w.raw 4 4, land_ones w.raw 4, land_ones w.raw 8,
    land_ones w.raw 12⟩
  rw [← hgroup]
  exact land_run w.raw 12 4

/-- Joining bytes by bits is putting them side by side. -/
theorem pack_eq (high low : Int) : pack high low = ((Word.pack high low).raw : Int) := by
  have hlow : (low % 256).toNat < 2 ^ 8 := by omega
  rw [pack, land_byte, land_byte, Word.pack_raw]
  show (((high % 256).toNat <<< 8 ||| (low % 256).toNat : Nat) : Int) = _
  rw [← Nat.shiftLeft_add_eq_or_of_lt hlow, Nat.shiftLeft_eq]
  omega

/-- Words with the same fields are the same, since the word is one of them. -/
theorem ofWord_inj {w w' : Word} : ofWord w = ofWord w' ↔ w = w' := by
  refine ⟨fun h => Word.ext ?_, congrArg ofWord⟩
  exact Int.natCast_inj.mp (congrArg BitFields.raw h)

end BitFields

namespace Word

/-! ## Digits and bytes -/

/-- The fields of a word as numbers in positional notation: each of the longer ones is its first
digit in front of the next shorter one, and none is larger than its digits can write. -/
structure Positional (w : Word) : Prop where
  raw_eq : w.raw = 4096 * w.group + w.nnn
  nnn_eq : w.nnn = 256 * w.x + w.nn
  nn_eq : w.nn = 16 * w.y + w.n
  group_lt : w.group < 16
  x_lt : w.x < 16
  y_lt : w.y < 16
  n_lt : w.n < 16
  nn_lt : w.nn < 256
  nnn_lt : w.nnn < 4096

theorem positional (w : Word) : w.Positional where
  raw_eq := by
    rw [Word.nnn_eq, Word.raw_eq]
    omega
  nnn_eq := by
    rw [Word.nnn_eq, Word.nn_eq]
    omega
  nn_eq := Word.nn_eq w
  group_lt := Word.group_lt w
  x_lt := w.field_lt .x
  y_lt := w.field_lt .y
  n_lt := w.field_lt .n
  nn_lt := w.field_lt .nn
  nnn_lt := w.field_lt .nnn

/-- Two integers are the same word if and only if they are congruent. -/
theorem ofInt_eq_ofInt_iff (value value' : Int) :
    ofInt value = ofInt value' ↔ value ≡ value' [ZMOD 65536] := by
  rw [Int.ModEq, ← ofInt_raw, ← ofInt_raw, Int.natCast_inj]
  exact ⟨congrArg raw, Word.ext⟩

/-- A word is one of its own integers. -/
theorem ofInt_self (w : Word) : ofInt w.raw = w := by
  have := w.raw_lt
  apply Word.ext
  have hraw := ofInt_raw w.raw
  omega

/-- A word is made of its two bytes. -/
theorem pack_bytes (w : Word) : pack (w.raw / 256 : Nat) (w.raw % 256 : Nat) = w := by
  have := w.raw_lt
  apply Word.ext
  have hraw := pack_raw (w.raw / 256 : Nat) (w.raw % 256 : Nat)
  omega

/-- What a word is, for every integer. Its fields are the runs of bits that masks and shifts cut out
of the integer, and they are the digits of the integer's remainder by 65536, in their places and
within their bounds. Integers have the same fields exactly if they are congruent. Two bytes make a
word, by bits and by digits, of which they are the two halves again; and the halves of a word make
that word. -/
theorem fields_positional (value : Int) :
    BitFields.ofWord (ofInt value) = BitFields.ofInt value ∧
    ((ofInt value).raw : Int) = value % 65536 ∧
    (ofInt value).Positional ∧
    (∀ value' : Int, BitFields.ofWord (ofInt value) = BitFields.ofWord (ofInt value') ↔
      value ≡ value' [ZMOD 65536]) ∧
    (∀ high low : Int,
      ((pack high low).raw : Int) = BitFields.pack high low ∧
      ((pack high low).raw : Int) = 256 * (high % 256) + low % 256 ∧
      (((ofInt (pack high low).raw).raw / 256 : Nat) : Int) = high % 256 ∧
      ((ofInt (pack high low).raw).nn : Int) = low % 256) ∧
    (pack ((ofInt value).raw / 256 : Nat) ((ofInt value).raw % 256 : Nat)).raw =
      (ofInt value).raw := by
  refine ⟨(BitFields.ofInt_eq value).symm, ofInt_raw value, positional _, ?_, ?_, ?_⟩
  · intro value'
    rw [BitFields.ofWord_inj, ofInt_eq_ofInt_iff]
  · intro high low
    have hraw : ((pack high low).raw : Int) = 256 * (high % 256) + low % 256 := pack_raw high low
    rw [ofInt_self]
    refine ⟨(BitFields.pack_eq high low).symm, hraw, ?_, ?_⟩
    · omega
    · unfold nn
      omega
  · rw [pack_bytes]

end Word

end Chip8
