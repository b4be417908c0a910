import Chip8.Opcode
import Chip8.Segment
import Chip8.Text.Numeral

/-!
# How an opcode is written

Each opcode has a rule: its mnemonic, its operands and a comment. Operands and comments are
templates, text in which the fields of the word stand for their values. A register field is written
`V` and its digit, the others `0x` and as many digits as the field has, so that what a rule writes
for a field is always a piece of the word's own four digits.

`Template.pattern` shows a template with its fields open. Braces mark the fields there, and a brace
that is text is doubled.
-/

namespace Chip8

/-- A piece of a template. -/
inductive Piece where
  | text (text : String)
  | field (field : Field)
deriving DecidableEq, Repr

instance : Coe String Piece := ⟨.text⟩

namespace Piece

/-- The register that `x` numbers. -/
abbrev x : Piece := .field .x

/-- The register that `y` numbers. -/
abbrev y : Piece := .field .y

/-- The four-bit number. -/
abbrev n : Piece := .field .n

/-- The byte. -/
abbrev nn : Piece := .field .nn

/-- The address. -/
abbrev nnn : Piece := .field .nnn

end Piece

namespace Field

/-- What stands before a field's digits: registers are marked `V`, numbers `0x`. -/
def mark : Field → String
  | .x | .y => "V"
  | .n | .nn | .nnn => "0x"

/-- The name of a field. -/
def name : Field → String
  | .x => "x"
  | .y => "y"
  | .n => "n"
  | .nn => "nn"
  | .nnn => "nnn"

/-- The number of digits of a field as a template states it; one digit goes without saying. -/
def format (f : Field) : String :=
  if f.width = 1 then "x" else "0" ++ Numeral.decimal f.width ++ "x"

/-- The value of a field as text. -/
def render (f : Field) (w : Word) : String :=
  f.mark ++ Numeral.render .hexadecimal f.width (w.field f)

/-- A field left open. -/
def pattern (f : Field) : String :=
  f.mark ++ "\x7b" ++ f.name ++ ":" ++ f.format ++ "\x7d"

end Field

/-- Text with the fields of a word in it. -/
abbrev Template := List Piece

namespace Template

/-- Text with its braces doubled. -/
def doubleBraces (text : String) : String :=
  String.ofList (text.toList.flatMap fun c => if c = '\x7b' ∨ c = '\x7d' then [c, c] else [c])

/-- The template with its fields open. -/
def pattern (template : Template) : String :=
  String.join (template.map fun
    | .text text => doubleBraces text
    | .field f => f.pattern)

/-- The template with the values of a word's fields. -/
def render (template : Template) (w : Word) : String :=
  String.join (template.map fun
    | .text text => text
    | .field f => f.render w)

end Template

/-- An operand: a template and the tag of its text. -/
structure Operand where
  template : Template
  tag : Tag
deriving DecidableEq, Repr

/-- How an opcode is written. -/
structure Rule where
  mnemonic : String
  operands : List Operand
  comment : Template
deriving DecidableEq, Repr

namespace Operand

/-- The register that `x` numbers. -/
def vx : Operand := ⟨[" ", .x], .register⟩

/-- The register that `y` numbers. -/
def vy : Operand := ⟨[" ", .y], .register⟩

/-- The first register. -/
def v0 : Operand := ⟨[" V0"], .register⟩

/-- The index register. -/
def index : Operand := ⟨[" I"], .register⟩

/-- A four-bit number. -/
def nibble : Operand := ⟨[" ", .n], .literal⟩

/-- A byte. -/
def byte : Operand := ⟨[" ", .nn], .literal⟩

/-- An address. -/
def target : Operand := ⟨[" ", .nnn], .literal⟩

/-- The sign between an address and what is added to it. -/
def plus : Operand := ⟨[" + "], .keyword⟩

end Operand

open Operand in
/-- The rule of each opcode. -/
def Opcode.rule : Opcode → Rule
  | .cls => ⟨"cls", [], ["Clear Screen;"]⟩
  | .ret => ⟨"return", [], ["Return from subroutine"]⟩
  | .sys => ⟨"sys", [target], ["Call machine code routine at ", .nnn, " (ignored)"]⟩
  | .jump => ⟨"jump", [target], ["PC = ", .nnn]⟩
  | .call => ⟨"call", [target], ["Call subroutine at ", .nnn]⟩
  | .sei => ⟨"sei", [vx, byte], ["if (", .x, " == ", .nn, ") \x7b PC += 2; \x7d"]⟩
  | .snei => ⟨"snei", [vx, byte], ["if (", .x, " != ", .nn, ") \x7b PC += 2; \x7d"]⟩
  | .ser => ⟨"ser", [vx, vy], ["if (", .x, " == ", .y, ") \x7b PC += 2; \x7d"]⟩
  | .movi => ⟨"movi", [vx, byte], [.x, " = ", .nn]⟩
  | .addi => ⟨"addi", [vx, byte], [.x, " += ", .nn]⟩
  | .sner => ⟨"sner", [vx, vy], ["if (", .x, " != ", .y, ") \x7b PC += 2; \x7d"]⟩
  | .imovi => ⟨"imovi", [index, target], ["I = ", .nnn]⟩
  | .jumpoff => ⟨"jumpoff", [target, plus, v0], ["PC = (", .nnn, " + V0);"]⟩
  | .rnd => ⟨"rnd", [vx, byte], [.x, " = RND() & ", .nn]⟩
  | .sprite => ⟨"sprite", [vx, vy, nibble],
      ["VF = DrawSprite(", .x, ", ", .y, ", ", .n, ", I) DrawSprite(x,y,h,sprite_memaddress)"]⟩
  | .movr => ⟨"movr", [vx, vy], [.x, " = ", .y]⟩
  | .orr => ⟨"or", [vx, vy], [.x, " |= ", .y, " (bitwise OR)"]⟩
  | .andr => ⟨"and", [vx, vy], [.x, " &= ", .y, " (bitwise AND)"]⟩
  | .xorr => ⟨"xor", [vx, vy], [.x, " ^= ", .y, " (bitwise XOR)"]⟩
  | .addr => ⟨"addr", [vx, vy],
      [.x, " = ", .x, " + ", .y, " Vf set to 1 if there's a carry"]⟩
  | .subr => ⟨"subr", [vx, vy],
      [.x, " = ", .x, " - ", .y, " Vf set to 0 if there's a borrow"]⟩
  | .shr => ⟨"shr", [vx],
      ["Stores the least significant bit of ", .x, " in Vf and then shifts ", .x,
        " to the right by 1"]⟩
  | .nsubr => ⟨"nsubr", [vx, vy],
      [.x, " = ", .y, " - ", .x, " Vf set to 0 if there's a borrow"]⟩
  | .shl => ⟨"shl", [vx],
      ["Stores the most significant bit of ", .x, " in Vf and then shifts ", .x,
        " to the left by 1"]⟩
  | .skr => ⟨"skr", [vx], [" if keypress(", .x, ") skip"]⟩
  | .snkr => ⟨"snkr", [vx], [" if !keypress(", .x, ") skip"]⟩
  | .rmovt => ⟨"rmovt", [vx], [" ", .x, " = DelayTimer"]⟩
  | .waitk => ⟨"waitk", [vx], [" ", .x, " = keypress() -- Block until key pressed"]⟩
  | .movt => ⟨"movt", [vx], [" DelayTimer = ", .x]⟩
  | .movs => ⟨"movs", [vx], [" SoundTimer = ", .x]⟩
  | .iaddr => ⟨"iaddr", [vx], [" I += ", .x]⟩
  | .digit => ⟨"digit", [vx], [" I is set to the address for the character (0-F) in ", .x]⟩
  | .bcd => ⟨"bcd", [vx], [" Stores the BCD of ", .x, " at I, I+1 and I+2"]⟩
  | .store => ⟨"store", [vx], [" Stores V0 to ", .x, " in memory starting at I"]⟩
  | .load => ⟨"load", [vx], [" Fills V0 to ", .x, " from memory starting at I"]⟩

namespace Rule

/-- The segments that a rule writes for a word: the mnemonic, the operands and the comment after its
slashes. -/
def segments (rule : Rule) (w : Word) : List Segment :=
  ⟨rule.mnemonic, .keyword⟩ ::
    (rule.operands.map fun operand => ⟨operand.template.render w, operand.tag⟩) ++
    [⟨" //" ++ rule.comment.render w, .comment⟩]

end Rule

namespace Word

/-- The rule by which a word is written, if it denotes an instruction. -/
def rule? (w : Word) : Option Rule :=
  (Opcode.ofWord? w).map Opcode.rule

/-- The mnemonic of a word, empty if it denotes no instruction. -/
def mnemonic (w : Word) : String :=
  (w.rule?.map Rule.mnemonic).getD ""

/-- The instruction part of a line: what the rule writes, or one empty keyword. -/
def instruction (w : Word) : List Segment :=
  match w.rule? with
  | none => [⟨"", .keyword⟩]
  | some rule => rule.segments w

end Word

end Chip8
