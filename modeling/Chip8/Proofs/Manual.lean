import Chip8.Listing
import Chip8.Proofs.Numeral

/-!
# The instruction set as its manual gives it

A manual of the machine describes each instruction by a row of a table: a pattern for the four
hexadecimal digits of the word, a mnemonic, operands and a comment. In the texts `VX` and `VY` stand
for the registers that the second and third digit number, and `N`, `NN` and `NNN` for the number
that the last one, two or three digits write.

The table is given here as it stands in print, patterns and texts alike, and nothing in it refers to
the rules or to the dispatch on words. The two are then compared. `Manual.segments_eq` says that
filling the digits of a word into a row's texts gives what the rule of the same instruction writes,
and `Manual.describes_iff` that the row's pattern fits exactly the words of that instruction. The main
statement, `Manual.line_as_documented`, puts them together for every integer and every address.
-/

namespace Chip8

namespace Word

/-- A word is its four digits. -/
theorem raw_eq (w : Word) : w.raw = 4096 * w.group + 256 * w.x + 16 * w.y + w.n := by
  unfold group x y n
  omega

theorem nn_eq (w : Word) : w.nn = 16 * w.y + w.n := by
  unfold nn y n
  omega

theorem nnn_eq (w : Word) : w.nnn = 256 * w.x + 16 * w.y + w.n := by
  unfold nnn x y n
  omega

theorem group_lt (w : Word) : w.group < 16 := by
  have := w.raw_lt
  unfold group
  omega

end Word

namespace Manual

/-- The hexadecimal digits of a word as characters, the most significant first. -/
structure Digits where
  d0 : Char
  d1 : Char
  d2 : Char
  d3 : Char

namespace Digits

/-- The digits of an integer modulo 65536. -/
def ofInt (word : Int) : Digits :=
  let value := (word % 65536).toNat
  ⟨(value / 4096).digitChar, (value / 256 % 16).digitChar, (value / 16 % 16).digitChar,
    (value % 16).digitChar⟩

/-- The digits in order. -/
def toList (d : Digits) : List Char :=
  [d.d0, d.d1, d.d2, d.d3]

/-- What stands in a line for a word of the manual's texts. -/
def word (d : Digits) : List Char → List Char
  | ['V', 'X'] => ['V', d.d1]
  | ['V', 'Y'] => ['V', d.d2]
  | ['N'] => ['0', 'x', d.d3]
  | ['N', 'N'] => ['0', 'x', d.d2, d.d3]
  | ['N', 'N', 'N'] => ['0', 'x', d.d1, d.d2, d.d3]
  | other => other

/-- Replaces the words of a text. A word is a longest run of letters and digits; `begun` is the part
of it that has been read. -/
def fillFrom (d : Digits) (begun : List Char) : List Char → List Char
  | [] => d.word begun
  | c :: rest =>
    if c.isAlphanum then d.fillFrom (begun ++ [c]) rest
    else d.word begun ++ c :: d.fillFrom [] rest

/-- A text of the manual with the digits of a word in it. -/
def fill (d : Digits) (text : String) : String :=
  String.ofList (d.fillFrom [] text.toList)

end Digits

/-- Whether digits fit a pattern: a mark stands for any digit, and a digit for itself. -/
def fits : List Char → List Char → Bool
  | [], [] => true
  | p :: pattern, d :: digits => (['?', 'X', 'Y', 'N'].contains p || p == d) && fits pattern digits
  | _, _ => false

/-- A row of the table. The exceptions are patterns of words that it leaves to others. -/
structure Row where
  pattern : String
  exceptions : List String := []
  mnemonic : String
  operands : List Segment := []
  comment : String

namespace Row

/-- Whether a row describes the word with the given digits. -/
def describes (row : Row) (d : Digits) : Bool :=
  fits row.pattern.toList d.toList &&
    !row.exceptions.any fun pattern => fits pattern.toList d.toList

/-- What a row writes for the word with the given digits. -/
def segments (row : Row) (d : Digits) : List Segment :=
  ⟨row.mnemonic, .keyword⟩ ::
    (row.operands.map fun operand => ⟨d.fill operand.text, operand.tag⟩) ++
    [⟨" //" ++ d.fill row.comment, .comment⟩]

end Row

/-- The register that the second digit numbers. -/
def vx : Segment := ⟨" VX", .register⟩

/-- The register that the third digit numbers. -/
def vy : Segment := ⟨" VY", .register⟩

/-- The first register. -/
def v0 : Segment := ⟨" V0", .register⟩

/-- The index register. -/
def index : Segment := ⟨" I", .register⟩

/-- The number of the last digit. -/
def n : Segment := ⟨" N", .literal⟩

/-- The number of the last two digits. -/
def nn : Segment := ⟨" NN", .literal⟩

/-- The number of the last three digits. -/
def nnn : Segment := ⟨" NNN", .literal⟩

/-- The sign between two operands that are added. -/
def plus : Segment := ⟨" + ", .keyword⟩

/-- The row of each instruction. -/
def row : Opcode → Row
  | .cls => { pattern := "00e0", mnemonic := "cls", comment := "Clear Screen;" }
  | .ret => { pattern := "00?e", mnemonic := "return", comment := "Return from subroutine" }
  | .sys =>
    { pattern := "0NNN", exceptions := ["0000", "00e0", "00?e"], mnemonic := "sys",
      operands := [nnn], comment := "Call machine code routine at NNN (ignored)" }
  | .jump => { pattern := "1NNN", mnemonic := "jump", operands := [nnn], comment := "PC = NNN" }
  | .call =>
    { pattern := "2NNN", mnemonic := "call", operands := [nnn], comment := "Call subroutine at NNN" }
  | .sei =>
    { pattern := "3XNN", mnemonic := "sei", operands := [vx, nn],
      comment := "if (VX == NN) \x7b PC += 2; \x7d" }
  | .snei =>
    { pattern := "4XNN", mnemonic := "snei", operands := [vx, nn],
      comment := "if (VX != NN) \x7b PC += 2; \x7d" }
  | .ser =>
    { pattern := "5XY?", mnemonic := "ser", operands := [vx, vy],
      comment := "if (VX == VY) \x7b PC += 2; \x7d" }
  | .movi => { pattern := "6XNN", mnemonic := "movi", operands := [vx, nn], comment := "VX = NN" }
  | .addi => { pattern := "7XNN", mnemonic := "addi", operands := [vx, nn], comment := "VX += NN" }
  | .movr => { pattern := "8XY0", mnemonic := "movr", operands := [vx, vy], comment := "VX = VY" }
  | .orr =>
    { pattern := "8XY1", mnemonic := "or", operands := [vx, vy],
      comment := "VX |= VY (bitwise OR)" }
  | .andr =>
    { pattern := "8XY2", mnemonic := "and", operands := [vx, vy],
      comment := "VX &= VY (bitwise AND)" }
  | .xorr =>
    { pattern := "8XY3", mnemonic := "xor", operands := [vx, vy],
      comment := "VX ^= VY (bitwise XOR)" }
  | .addr =>
    { pattern := "8XY4", mnemonic := "addr", operands := [vx, vy],
      comment := "VX = VX + VY Vf set to 1 if there's a carry" }
  | .subr =>
    { pattern := "8XY5", mnemonic := "subr", operands := [vx, vy],
      comment := "VX = VX - VY Vf set to 0 if there's a borrow" }
  | .shr =>
    { pattern := "8XY6", mnemonic := "shr", operands := [vx],
      comment := "Stores the least significant bit of VX in Vf and then shifts VX to the right by 1" }
  | .nsubr =>
    { pattern := "8XY7", mnemonic := "nsubr", operands := [vx, vy],
      comment := "VX = VY - VX Vf set to 0 if there's a borrow" }
  | .shl =>
    { pattern := "8XYe", mnemonic := "shl", operands := [vx],
      comment := "Stores the most significant bit of VX in Vf and then shifts VX to the left by 1" }
  | .sner =>
    { pattern := "9XY?", mnemonic := "sner", operands := [vx, vy],
      comment := "if (VX != VY) \x7b PC += 2; \x7d" }
  | .imovi =>
    { pattern := "aNNN", mnemonic := "imovi", operands := [index, nnn], comment := "I = NNN" }
  | .jumpoff =>
    { pattern := "bNNN", mnemonic := "jumpoff", operands := [nnn, plus, v0],
      comment := "PC = (NNN + V0);" }
  | .rnd =>
    { pattern := "cXNN", mnemonic := "rnd", operands := [vx, nn], comment := "VX = RND() & NN" }
  | .sprite =>
    { pattern := "dXYN", mnemonic := "sprite", operands := [vx, vy, n],
      comment := "VF = DrawSprite(VX, VY, N, I) DrawSprite(x,y,h,sprite_memaddress)" }
  | .skr =>
    { pattern := "eX?e", mnemonic := "skr", operands := [vx], comment := " if keypress(VX) skip" }
  | .snkr =>
    { pattern := "eX??", exceptions := ["eX?e"], mnemonic := "snkr", operands := [vx],
      comment := " if !keypress(VX) skip" }
  | .rmovt =>
    { pattern := "fX07", mnemonic := "rmovt", operands := [vx], comment := " VX = DelayTimer" }
  | .waitk =>
    { pattern := "fX0a", mnemonic := "waitk", operands := [vx],
      comment := " VX = keypress() -- Block until key pressed" }
  | .movt =>
    { pattern := "fX15", mnemonic := "movt", operands := [vx], comment := " DelayTimer = VX" }
  | .movs =>
    { pattern := "fX18", mnemonic := "movs", operands := [vx], comment := " SoundTimer = VX" }
  | .iaddr => { pattern := "fX1e", mnemonic := "iaddr", operands := [vx], comment := " I += VX" }
  | .digit =>
    { pattern := "fX29", mnemonic := "digit", operands := [vx],
      comment := " I is set to the address for the character (0-F) in VX" }
  | .bcd =>
    { pattern := "fX33", mnemonic := "bcd", operands := [vx],
      comment := " Stores the BCD of VX at I, I+1 and I+2" }
  | .store =>
    { pattern := "fX55", mnemonic := "store", operands := [vx],
      comment := " Stores V0 to VX in memory starting at I" }
  | .load =>
    { pattern := "fX65", mnemonic := "load", operands := [vx],
      comment := " Fills V0 to VX from memory starting at I" }

/-- The whole table. -/
def table : List Row :=
  Opcode.all.map row

/-- The row of the word with the given digits. -/
def find? (d : Digits) : Option Row :=
  table.find? fun row => row.describes d

/-! ## The digits of a word -/

namespace Digits

/-- The digits of a word, field by field. -/
def ofWord (w : Word) : Digits :=
  ⟨w.group.digitChar, w.x.digitChar, w.y.digitChar, w.n.digitChar⟩

theorem ofInt_eq (word : Int) : ofInt word = ofWord (Word.ofInt word) := rfl

/-- What a field of a word is written as. -/
def field (d : Digits) : Field → List Char
  | .x => ['V', d.d1]
  | .y => ['V', d.d2]
  | .n => ['0', 'x', d.d3]
  | .nn => ['0', 'x', d.d2, d.d3]
  | .nnn => ['0', 'x', d.d1, d.d2, d.d3]

/-- The word in hexadecimal columns is its four digits. -/
theorem chars_raw (w : Word) : Numeral.chars .hexadecimal 4 w.raw = (ofWord w).toList := by
  have hraw := w.raw_lt
  have hgroup : w.raw / 16 / 16 / 16 = w.group := by unfold Word.group; omega
  have hx : w.raw / 16 / 16 % 16 = w.x := by unfold Word.x; omega
  have hlt : w.raw / 16 / 16 / 16 < 16 := by omega
  rw [Numeral.chars_succ _ (by decide), Numeral.chars_succ _ (by decide),
    Numeral.chars_succ _ (by decide), Numeral.chars_one _ hlt]
  simp only [Radix.base, hgroup, hx]
  rfl

/-- A field is written with digits of the word itself. -/
theorem toList_render (w : Word) (f : Field) : (f.render w).toList = (ofWord w).field f := by
  have hx : w.x < 16 := w.field_lt .x
  have hy : w.y < 16 := w.field_lt .y
  have hn : w.n < 16 := w.field_lt .n
  have hnn : w.nn / 16 = w.y ∧ w.nn % 16 = w.n := by unfold Word.nn Word.y Word.n; omega
  have hnnn : w.nnn / 16 / 16 = w.x ∧ w.nnn / 16 % 16 = w.y ∧ w.nnn % 16 = w.n := by
    unfold Word.nnn Word.x Word.y Word.n; omega
  rw [Field.render, String.toList_append, Numeral.render, String.toList_ofList]
  cases f
  case x => exact congrArg _ (Numeral.chars_one _ hx)
  case y => exact congrArg _ (Numeral.chars_one _ hy)
  case n => exact congrArg _ (Numeral.chars_one _ hn)
  case nn =>
    rw [Field.width, Word.field, Numeral.chars_succ _ (by decide), Radix.base, hnn.1, hnn.2,
      Numeral.chars_one _ hy]
    rfl
  case nnn =>
    rw [Field.width, Word.field, Numeral.chars_succ _ (by decide), Numeral.chars_succ _ (by decide),
      Radix.base, hnnn.1, hnnn.2.1, hnnn.2.2, Numeral.chars_one _ hx]
    rfl

/-- The characters of a piece of a template. -/
def piece (d : Digits) : Piece → List Char
  | .text text => text.toList
  | .field f => d.field f

/-- A template is written piece by piece. -/
theorem toList_template (t : Template) (w : Word) :
    (t.render w).toList = t.flatMap (ofWord w).piece := by
  rw [Template.render, String.toList_join, List.flatMap_map]
  congr 1
  funext p
  cases p with
  | text text => rfl
  | field f => exact toList_render w f

end Digits

/-! ## What the rows write -/

/-- A template and a text of the manual come to the same if their characters do. -/
theorem render_eq_fill {t : Template} {w : Word} {text : String}
    (h : t.flatMap (Digits.ofWord w).piece = (Digits.ofWord w).fillFrom [] text.toList) :
    t.render w = (Digits.ofWord w).fill text := by
  apply String.toList_inj.mp
  rw [Digits.toList_template, Digits.fill, String.toList_ofList, h]

/-- An operand of a rule and one of the manual come to the same segment if their characters and
their tags agree. -/
theorem operand_eq (operand : Operand) (w : Word) (documented : Segment)
    (h : operand.template.flatMap (Digits.ofWord w).piece =
      (Digits.ofWord w).fillFrom [] documented.text.toList)
    (htag : operand.tag = documented.tag) :
    (⟨operand.template.render w, operand.tag⟩ : Segment) =
      ⟨(Digits.ofWord w).fill documented.text, documented.tag⟩ := by
  rw [render_eq_fill h, htag]

/-- The operands of a rule are those of the manual with the digits in them. -/
theorem operands_eq (op : Opcode) (w : Word) :
    (op.rule.operands.map fun operand =>
      (⟨operand.template.render w, operand.tag⟩ : Segment)) =
      (row op).operands.map fun documented =>
        ⟨(Digits.ofWord w).fill documented.text, documented.tag⟩ := by
  have hvx := operand_eq .vx w vx rfl rfl
  have hvy := operand_eq .vy w vy rfl rfl
  have hn := operand_eq .nibble w n rfl rfl
  have hnn := operand_eq .byte w nn rfl rfl
  have hnnn := operand_eq .target w nnn rfl rfl
  have hindex := operand_eq .index w index rfl rfl
  have hplus := operand_eq .plus w plus rfl rfl
  have hv0 := operand_eq .v0 w v0 rfl rfl
  cases op <;>
    simp only [Opcode.rule, row, List.map_cons, List.map_nil, hvx, hvy, hn, hnn, hnnn, hindex,
      hplus, hv0]

/-- The comment of a rule is that of the manual with the digits in it. -/
theorem comment_eq (op : Opcode) (w : Word) :
    op.rule.comment.render w = (Digits.ofWord w).fill (row op).comment := by
  apply render_eq_fill
  cases op
  all_goals
    simp only [Opcode.rule, row, List.flatMap_cons, List.flatMap_nil, Digits.piece, Digits.field]
    repeat rw [String.toList_ofList]
    simp [Digits.fillFrom, Digits.word]

theorem mnemonic_eq (op : Opcode) : op.rule.mnemonic = (row op).mnemonic := by
  cases op <;> rfl

/-- The rule of an instruction writes what its row says. -/
theorem segments_eq (op : Opcode) (w : Word) :
    op.rule.segments w = (row op).segments (Digits.ofWord w) := by
  rw [Rule.segments, Row.segments, operands_eq, comment_eq, mnemonic_eq]

/-! ## Which row describes a word -/

/-- The characters of the sixteen digits. -/
def hexDigits : List Char :=
  ['0', '1', '2', '3', '4', '5', '6', '7', '8', '9', 'a', 'b', 'c', 'd', 'e', 'f']

theorem getElem_hexDigits : ∀ k : Fin hexDigits.length, hexDigits[k] = (k : Nat).digitChar := by
  decide

theorem idxOf_hexDigits :
    hexDigits.idxOf '0' = 0 ∧ hexDigits.idxOf '1' = 1 ∧ hexDigits.idxOf '2' = 2 ∧
      hexDigits.idxOf '3' = 3 ∧ hexDigits.idxOf '4' = 4 ∧ hexDigits.idxOf '5' = 5 ∧
      hexDigits.idxOf '6' = 6 ∧ hexDigits.idxOf '7' = 7 ∧ hexDigits.idxOf '8' = 8 ∧
      hexDigits.idxOf '9' = 9 ∧ hexDigits.idxOf 'a' = 10 ∧ hexDigits.idxOf 'b' = 11 ∧
      hexDigits.idxOf 'c' = 12 ∧ hexDigits.idxOf 'd' = 13 ∧ hexDigits.idxOf 'e' = 14 ∧
      hexDigits.idxOf 'f' = 15 := by
  decide

/-- A character is the digit of the value at whose place it stands. -/
theorem eq_digitChar_iff {c : Char} {k : Nat} (hk : k < 16) :
    c = k.digitChar ↔ k = hexDigits.idxOf c := by
  have hnodup : hexDigits.Nodup := by decide
  rw [← getElem_hexDigits ⟨k, hk⟩]
  constructor
  · intro h
    rw [h]
    exact (hnodup.idxOf_getElem k hk).symm
  · intro h
    subst h
    exact (List.getElem_idxOf hk).symm

/-- Whether one character of a pattern accepts the value of a digit. -/
def accepts (p : Char) (k : Nat) : Bool :=
  ['?', 'X', 'Y', 'N'].contains p || k == hexDigits.idxOf p

/-- A pattern is a condition on the fields of the word. -/
theorem fits_ofWord (w : Word) (p0 p1 p2 p3 : Char) :
    fits [p0, p1, p2, p3] (Digits.ofWord w).toList =
      (accepts p0 w.group && (accepts p1 w.x && (accepts p2 w.y && accepts p3 w.n))) := by
  have hbeq : ∀ (p : Char) {k : Nat}, k < 16 → (p == k.digitChar) = (k == hexDigits.idxOf p) := by
    intro p k hk
    rw [Bool.eq_iff_iff, beq_iff_eq, beq_iff_eq]
    exact eq_digitChar_iff hk
  have hx : w.x < 16 := w.field_lt .x
  have hy : w.y < 16 := w.field_lt .y
  have hn : w.n < 16 := w.field_lt .n
  simp only [fits, Digits.ofWord, Digits.toList, accepts, hbeq p0 w.group_lt, hbeq p1 hx,
    hbeq p2 hy, hbeq p3 hn, Bool.and_true]

/-- The row that describes a word is the row of its instruction. -/
theorem ofWord?_of_describes {op : Opcode} {w : Word}
    (h : (row op).describes (Digits.ofWord w) = true) : Opcode.ofWord? w = some op := by
  cases op
  all_goals
    simp [row, Row.describes, fits_ofWord, accepts, idxOf_hexDigits] at h
  case cls | ret | sys =>
    -- the dispatch asks for whole numbers here, so they are put together from the digits
    have hraw := w.raw_eq
    have hnnn := w.nnn_eq
    have hn : w.n < 16 := w.field_lt .n
    have hy : w.y < 16 := w.field_lt .y
    rw [Opcode.ofWord?, h.1]
    simp only [Opcode.system?]
    grind
  case movr | orr | andr | xorr | addr | subr | shr | nsubr | shl =>
    rw [Opcode.ofWord?, h.1]
    show Opcode.arithmetic? w.n = _
    rw [h.2]
    rfl
  case skr | snkr =>
    rw [Opcode.ofWord?, h.1]
    simp only [Opcode.key]
    grind
  case rmovt | waitk | movt | movs | iaddr | digit | bcd | store | load =>
    -- two digits of the pattern are one byte of the dispatch
    rw [Opcode.ofWord?, h.1]
    show Opcode.device? w.nn = _
    rw [w.nn_eq, h.2.1, h.2.2]
    rfl
  all_goals
    rw [Opcode.ofWord?, h]
    rfl

/-- The row of a word's instruction describes the word. -/
theorem describes_of_ofWord? {op : Opcode} {w : Word} (h : Opcode.ofWord? w = some op) :
    (row op).describes (Digits.ofWord w) = true := by
  have hraw := w.raw_eq
  have hnnn := w.nnn_eq
  have hnn := w.nn_eq
  have hy : w.y < 16 := w.field_lt .y
  have hn : w.n < 16 := w.field_lt .n
  -- the dispatch leaves one goal for each instruction it can name, with the digits it looked at
  simp only [Opcode.ofWord?, Opcode.system?, Opcode.arithmetic?, Opcode.key, Opcode.device?] at h
  repeat' split at h
  all_goals cases h
  all_goals
    simp [row, Row.describes, fits_ofWord, accepts, idxOf_hexDigits]
    omega

/-- A row describes exactly the words that denote its instruction. -/
theorem describes_iff (op : Opcode) (w : Word) :
    (row op).describes (Digits.ofWord w) = true ↔ Opcode.ofWord? w = some op :=
  ⟨ofWord?_of_describes, describes_of_ofWord?⟩

/-- Looking a word up in the table finds the row of its instruction. -/
theorem find?_ofWord (w : Word) :
    find? (Digits.ofWord w) = (Opcode.ofWord? w).map row := by
  rw [find?, table, List.find?_map]
  cases h : Opcode.ofWord? w with
  | none =>
    have hnone : Opcode.all.find? ((fun row => row.describes (Digits.ofWord w)) ∘ row) = none := by
      rw [List.find?_eq_none]
      intro op _ hdescribes
      rw [(describes_iff op w).mp hdescribes] at h
      cases h
    rw [hnone, Option.map_none]
  | some op =>
    -- whatever row comes first in the table, it is that of the word's instruction
    have hsome : Opcode.all.find? ((fun row => row.describes (Digits.ofWord w)) ∘ row) =
        some op := by
      cases hfind : Opcode.all.find? ((fun row => row.describes (Digits.ofWord w)) ∘ row) with
      | none =>
        have hnot := List.find?_eq_none.mp hfind op op.mem_all
        exact absurd ((describes_iff op w).mpr h) hnot
      | some found =>
        have hdescribes := List.find?_some hfind
        have hfound := (describes_iff found w).mp hdescribes
        rw [h] at hfound
        exact hfound.symm
    rw [hsome, Option.map_some]

/-- The row that is found is the only one that describes the word. -/
theorem find?_eq_some_iff (w : Word) {found : Row} (h : found ∈ table) :
    find? (Digits.ofWord w) = some found ↔ found.describes (Digits.ofWord w) = true := by
  constructor
  · intro hfind
    rw [find?] at hfind
    simpa using List.find?_some hfind
  · intro hdescribes
    obtain ⟨op, _, rfl⟩ := List.mem_map.mp h
    rw [find?_ofWord, (describes_iff op w).mp hdescribes, Option.map_some]

/-- The instruction part of a line is what the manual's row for the word writes. -/
theorem instruction_eq (w : Word) :
    w.instruction =
      match find? (Digits.ofWord w) with
      | none => [⟨"", .keyword⟩]
      | some row => row.segments (Digits.ofWord w) := by
  rw [find?_ofWord, Word.instruction, Word.rule?]
  cases Opcode.ofWord? w with
  | none => rfl
  | some op => exact segments_eq op w

/-! ## Lines as the manual describes them -/

/-- A word that denotes the instruction. -/
def sample : Opcode → Int
  | .cls => 0x00E0 | .ret => 0x00EE | .sys => 0x0111
  | .jump => 0x1111 | .call => 0x2111 | .sei => 0x3111 | .snei => 0x4111 | .ser => 0x5111
  | .movi => 0x6111 | .addi => 0x7111 | .sner => 0x9111 | .imovi => 0xA111 | .jumpoff => 0xB111
  | .rnd => 0xC111 | .sprite => 0xD111
  | .movr => 0x8110 | .orr => 0x8111 | .andr => 0x8112 | .xorr => 0x8113 | .addr => 0x8114
  | .subr => 0x8115 | .shr => 0x8116 | .nsubr => 0x8117 | .shl => 0x811E
  | .skr => 0xE11E | .snkr => 0xE111
  | .rmovt => 0xF107 | .waitk => 0xF10A | .movt => 0xF115 | .movs => 0xF118 | .iaddr => 0xF11E
  | .digit => 0xF129 | .bcd => 0xF133 | .store => 0xF155 | .load => 0xF165

theorem ofWord?_sample (op : Opcode) : Opcode.ofWord? (Word.ofInt (sample op)) = some op := by
  cases op <;> decide

/-- The rules by which words are written are those of the instructions: no rule is out of reach. -/
theorem exists_rule?_iff (rule : Rule) :
    (∃ word : Int, (Word.ofInt word).rule? = some rule) ↔ rule ∈ Opcode.all.map Opcode.rule := by
  constructor
  · rintro ⟨word, h⟩
    obtain ⟨op, _, hrule⟩ := Option.map_eq_some_iff.mp h
    exact List.mem_map.mpr ⟨op, op.mem_all, hrule⟩
  · intro h
    obtain ⟨op, _, hrule⟩ := List.mem_map.mp h
    refine ⟨sample op, ?_⟩
    rw [Word.rule?, ofWord?_sample, Option.map_some, hrule]

/-- Every instruction has a mnemonic. -/
theorem mnemonic_ne_empty (op : Opcode) : op.rule.mnemonic ≠ "" := by
  cases op <;> decide

theorem mnemonic_eq_empty_iff (w : Word) : w.mnemonic = "" ↔ Opcode.ofWord? w = none := by
  rw [Word.mnemonic, Word.rule?]
  cases h : Opcode.ofWord? w with
  | none => simp
  | some op => simpa using mnemonic_ne_empty op

/-- The segment behind the three columns of a line is its mnemonic. -/
theorem head?_instruction (w : Word) :
    w.instruction.head? = some ⟨w.mnemonic, .keyword⟩ := by
  rw [Word.instruction, Word.mnemonic]
  cases w.rule? with
  | none => rfl
  | some rule => rfl

/-- **Lines are as documented.** The line of any integer at any address shows the address, the four
digits of the word and what the row of the table that describes those digits says with the digits in
it, or nothing if no row does. No two rows describe the same digits, the mnemonic is the text of the
fourth segment and is empty exactly if there is no row, and every rule of the table is used for some
word. -/
theorem line_as_documented (word address : Int) :
    let line := Line.ofWord (Word.ofInt word) address
    let digits := Digits.ofInt word
    line.address = address ∧ (line.opcode.raw : Int) = word % 65536 ∧
    line.segments =
      [⟨Numeral.hex 4 address ++ " ", .address⟩,
        ⟨"0x" ++ String.ofList digits.toList ++ " ", .opcode⟩, ⟨" ", .keyword⟩] ++
        (match find? digits with
          | none => [⟨"", .keyword⟩]
          | some row => row.segments digits) ∧
    (∀ row ∈ table, find? digits = some row ↔ row.describes digits = true) ∧
    line.segments[3]?.map Segment.text = some line.mnemonic ∧
    (line.mnemonic = "" ↔ ∀ row ∈ table, row.describes digits = false) ∧
    table.length = 35 ∧
    ∀ rule, (∃ word : Int, (Word.ofInt word).rule? = some rule) ↔
      rule ∈ Opcode.all.map Opcode.rule := by
  intro line digits
  have hdigits : digits = Digits.ofWord (Word.ofInt word) := Digits.ofInt_eq word
  refine ⟨rfl, Word.ofInt_raw word, ?_, ?_, ?_, ?_, rfl, exists_rule?_iff⟩
  · rw [hdigits, ← instruction_eq, ← Digits.chars_raw]
    rfl
  · intro row hrow
    rw [hdigits]
    exact find?_eq_some_iff (Word.ofInt word) hrow
  · have hhead := head?_instruction (Word.ofInt word)
    rw [List.head?_eq_getElem?] at hhead
    show ((Word.ofInt word).instruction[0]?).map Segment.text = _
    rw [hhead]
    rfl
  · show (Word.ofInt word).mnemonic = "" ↔ _
    rw [mnemonic_eq_empty_iff, ← Option.map_eq_none_iff, ← find?_ofWord, find?,
      List.find?_eq_none, hdigits]
    simp

end Manual

end Chip8
