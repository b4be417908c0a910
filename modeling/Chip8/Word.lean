/-!
# Instruction words

An instruction is one 16-bit word, stored with its high byte first. Its fields are runs of its four
hexadecimal digits: the group is the first, `x`, `y` and `n` the other three, `nn` the last two and
`nnn` the last three. They are taken by division and remainder, so that each is a plain number and
the digits put together again give the word.
-/

namespace Chip8

/-- A 16-bit word. -/
structure Word where
  raw : Nat
  raw_lt : raw < 65536
deriving DecidableEq

/-- The operand fields of a word. -/
inductive Field where
  | x
  | y
  | n
  | nn
  | nnn
deriving DecidableEq, Repr

/-- How many hexadecimal digits a field has. -/
def Field.width : Field → Nat
  | .x | .y | .n => 1
  | .nn => 2
  | .nnn => 3

namespace Word

instance : Inhabited Word := ⟨⟨0, by decide⟩⟩

/-- The word congruent to an integer modulo 65536, negative integers included. -/
def ofInt (value : Int) : Word :=
  ⟨(value % 65536).toNat, by omega⟩

/-- The word of two bytes, the high one first. Only the low eight bits of each count. -/
def pack (high low : Int) : Word :=
  ofInt (256 * (high % 256) + low % 256)

/-- The word of two halves side by side in sixteen bits, the high one shifted past a byte. Nothing of
either is masked. -/
def join (high low : UInt16) : Word :=
  ⟨((high <<< 8) ||| low).toNat, UInt16.toNat_lt _⟩

/-- The first digit, which selects the family of instructions. -/
def group (w : Word) : Nat :=
  w.raw / 4096

/-- The second digit, mostly the number of a register. -/
def x (w : Word) : Nat :=
  w.raw / 256 % 16

/-- The third digit, mostly the number of a register. -/
def y (w : Word) : Nat :=
  w.raw / 16 % 16

/-- The last digit: the height of a sprite, or the selector of an arithmetic instruction. -/
def n (w : Word) : Nat :=
  w.raw % 16

/-- The last two digits, a byte. -/
def nn (w : Word) : Nat :=
  w.raw % 256

/-- The last three digits, an address. -/
def nnn (w : Word) : Nat :=
  w.raw % 4096

/-- The value of an operand field. -/
def field (w : Word) : Field → Nat
  | .x => w.x
  | .y => w.y
  | .n => w.n
  | .nn => w.nn
  | .nnn => w.nnn

@[ext] theorem ext {v w : Word} (h : v.raw = w.raw) : v = w := by
  cases v; cases w; cases h; rfl

theorem ofInt_raw (value : Int) : ((ofInt value).raw : Int) = value % 65536 := by
  simp only [ofInt]; omega

/-- Packing two bytes puts them side by side. -/
theorem pack_raw (high low : Int) :
    ((pack high low).raw : Int) = 256 * (high % 256) + low % 256 := by
  rw [pack, ofInt_raw]; omega

/-- Halves that are bytes are joined as bytes are packed. -/
theorem join_eq_pack {high low : Nat} (hhigh : high < 256) (hlow : low < 256) :
    join (.ofNat high) (.ofNat low) = pack high low := by
  -- a byte is shifted without loss, and leaves room for the other
  have hshifted : (UInt16.ofNat high <<< 8).toNat = high <<< 8 := by
    rw [UInt16.toNat_shiftLeft, UInt16.toNat_ofNat']
    show (high % 2 ^ 16) <<< 8 % 2 ^ 16 = high <<< 8
    rw [Nat.shiftLeft_eq, Nat.shiftLeft_eq]
    omega
  have hlower : (UInt16.ofNat low).toNat = low := by
    rw [UInt16.toNat_ofNat']
    omega
  have hjoined : (join (.ofNat high) (.ofNat low)).raw = high * 2 ^ 8 + low := by
    show (UInt16.ofNat high <<< 8 ||| UInt16.ofNat low).toNat = _
    rw [UInt16.toNat_or, hshifted, hlower, ← Nat.shiftLeft_add_eq_or_of_lt hlow, Nat.shiftLeft_eq]
  have hpacked := pack_raw high low
  apply ext
  omega

/-- A field is less than the number that its digits can show. -/
theorem field_lt (w : Word) (f : Field) : w.field f < Nat.pow 16 f.width := by
  have := w.raw_lt
  cases f
  case x => show w.raw / 256 % 16 < 16; omega
  case y => show w.raw / 16 % 16 < 16; omega
  case n => show w.raw % 16 < 16; omega
  case nn => show w.raw % 256 < 256; omega
  case nnn => show w.raw % 4096 < 4096; omega

end Word

end Chip8
