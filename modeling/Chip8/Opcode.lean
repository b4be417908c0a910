import Chip8.Word

/-!
# Opcodes

The thirty-five instructions of the machine, each named by its mnemonic, and the one that a word
denotes. Most words are told apart by their first digit alone. Group 8 is told apart further by the
last digit, group F by the last two, group E by whether the last digit is `e`, and group 0 by the
whole word. A word that no instruction claims denotes none.
-/

namespace Chip8

/-- The instructions. -/
inductive Opcode where
  | cls | ret | sys
  | jump | call | sei | snei | ser | movi | addi | sner | imovi | jumpoff | rnd | sprite
  | movr | orr | andr | xorr | addr | subr | shr | nsubr | shl
  | skr | snkr
  | rmovt | waitk | movt | movs | iaddr | digit | bcd | store | load
deriving DecidableEq, Repr

namespace Opcode

/-- Every instruction, ordered by group and within it by selector; the instructions that take what
the others of their group leave come last in it. -/
def all : List Opcode :=
  [.cls, .ret, .sys,
    .jump, .call, .sei, .snei, .ser, .movi, .addi, .sner, .imovi, .jumpoff, .rnd, .sprite,
    .movr, .orr, .andr, .xorr, .addr, .subr, .shr, .nsubr, .shl,
    .skr, .snkr,
    .rmovt, .waitk, .movt, .movs, .iaddr, .digit, .bcd, .store, .load]

/-- Group 0. A return is any `00?e`; every other word but zero calls a machine routine, unless it is
the one that clears the screen. -/
def system? (w : Word) : Option Opcode :=
  if w.x = 0 ∧ w.n = 0xE then some .ret
  else if w.raw = 0x00E0 then some .cls
  else if w.nnn ≠ 0 then some .sys
  else none

/-- Group 8, by its last digit. -/
def arithmetic? (selector : Nat) : Option Opcode :=
  match selector with
  | 0x0 => some .movr
  | 0x1 => some .orr
  | 0x2 => some .andr
  | 0x3 => some .xorr
  | 0x4 => some .addr
  | 0x5 => some .subr
  | 0x6 => some .shr
  | 0x7 => some .nsubr
  | 0xE => some .shl
  | _ => none

/-- Group E, by its last digit. -/
def key (selector : Nat) : Opcode :=
  if selector = 0xE then .skr else .snkr

/-- Group F, by its last two digits. -/
def device? (selector : Nat) : Option Opcode :=
  match selector with
  | 0x07 => some .rmovt
  | 0x0A => some .waitk
  | 0x15 => some .movt
  | 0x18 => some .movs
  | 0x1E => some .iaddr
  | 0x29 => some .digit
  | 0x33 => some .bcd
  | 0x55 => some .store
  | 0x65 => some .load
  | _ => none

/-- The instruction that a word denotes. -/
def ofWord? (w : Word) : Option Opcode :=
  match w.group with
  | 0x0 => system? w
  | 0x1 => some .jump
  | 0x2 => some .call
  | 0x3 => some .sei
  | 0x4 => some .snei
  | 0x5 => some .ser
  | 0x6 => some .movi
  | 0x7 => some .addi
  | 0x8 => arithmetic? w.n
  | 0x9 => some .sner
  | 0xA => some .imovi
  | 0xB => some .jumpoff
  | 0xC => some .rnd
  | 0xD => some .sprite
  | 0xE => some (key w.n)
  | 0xF => device? w.nn
  | _ => none

/-- No instruction is missing from the list of all instructions. -/
theorem mem_all (op : Opcode) : op ∈ all := by
  cases op <;> decide

end Opcode

end Chip8
