import Chip8.Proofs.PlainRows
import Chip8.Proofs.ReadBack
import Chip8.Proofs.Unambiguous

/-!
# Listings in columns

At its default width a listing is meant to be a block of text: every row as wide as every other, and
the mnemonics below each other. Nothing cuts a row that is too long, so it is a property of the texts
of the rules that no row is. What a rule writes takes the same number of characters for every word,
since fields have a fixed width; `Template.columns` counts them from the template alone, and
`Opcode.columns_le` has the longest of them.

In front of the mnemonic stand the address and the word. Below `0x10000` both have four digits, which
fixes the column of the mnemonic (`Line.length_lead`).

The main statement is `Listing.print_fixed_width`.
-/

namespace Chip8

/-! ## The length of instructions -/

/-- How many characters a piece of a template takes, whatever the word. -/
def Piece.columns : Piece → Nat
  | .text words => words.length
  | .field f => f.mark.length + f.width

/-- How many characters a template takes. -/
def Template.columns (t : Template) : Nat :=
  (t.map Piece.columns).foldr (· + ·) 0

theorem Template.length_spelled (t : Template) (w : Word) : (t.spelled w).length = t.columns := by
  induction t with
  | nil => rfl
  | cons piece rest ih =>
    have hpiece : ((Manual.Digits.ofWord w).piece piece).length = piece.columns := by
      cases piece with
      | text words => exact String.length_toList
      | field f => cases f <;> rfl
    unfold spelled columns at ih ⊢
    rw [List.flatMap_cons, List.length_append, hpiece, ih, List.map_cons, List.foldr_cons]

/-- No rule writes more than ninety characters. -/
theorem Opcode.columns_le (op : Opcode) :
    Template.columns (op.rule.front ++ op.rule.remark) ≤ 90 := by
  cases op
  all_goals
    simp only [Opcode.rule, Rule.front, Rule.remark, Template.columns, Operand.vx, Operand.vy,
      Operand.nibble, Operand.byte, Operand.target, Operand.index, Operand.v0, Operand.plus,
      List.flatMap_cons, List.flatMap_nil, List.cons_append, List.nil_append, List.append_nil,
      List.map_cons, List.map_nil, Piece.columns, Field.mark, Field.width]
    -- literals as lists of characters: deciding on strings would unfold their encoding
    repeat rw [String.length_ofList]
    decide

namespace Word

theorem length_instruction_le (w : Word) : (Segment.joined w.instruction).length ≤ 90 := by
  rw [← String.length_toList]
  cases h : Opcode.ofWord? w with
  | none =>
    rw [instruction_of_none h]
    decide
  | some op =>
    rw [instruction_of_some h, Rule.toList_joined_segments, Template.length_spelled]
    exact op.columns_le

/-- The first word of an instruction is its mnemonic, and there is none if it has none. -/
theorem takeWhile_instruction (w : Word) :
    (Segment.joined w.instruction).toList.takeWhile (· != ' ') = w.mnemonic.toList := by
  rw [mnemonic, rule?]
  cases h : Opcode.ofWord? w with
  | none =>
    rw [instruction_of_none h]
    rfl
  | some op =>
    rw [instruction_of_some h, Rule.toList_joined_segments]
    exact op.takeWhile_spelled w op.mnemonic_apart.2.2

end Word

/-! ## In front of the mnemonic -/

/-- A number of up to four digits is written with four. -/
theorem Numeral.length_hex {n : Int} (h0 : 0 ≤ n) (h : n < 0x10000) : (hex 4 n).length = 6 := by
  have hword := Manual.Digits.chars_raw ⟨n.toNat, by omega⟩
  rw [show ((n.toNat : Nat) : Int) = n by omega] at hword
  rw [hex, String.length_append, String.length_ofList, render, hword, String.length_ofList]
  rfl

namespace Line

/-- The address and the word of a line, each up to its blank. -/
def lead (word : Word) (address : Int) : String :=
  Numeral.hex 4 address ++ " " ++ (Numeral.hex 4 word.raw ++ " ")

theorem text_ofWord (word : Word) (address : Int) :
    (ofWord word address).text =
      lead word address ++ (" " ++ Segment.joined word.instruction) := by
  simp only [text, ofWord, lead, List.cons_append, List.nil_append, Segment.joined_cons,
    String.append_assoc]

theorem length_lead (word : Word) {address : Int} (h0 : 0 ≤ address) (h : address < 0x10000) :
    (lead word address).length = 14 := by
  have hraw := word.raw_lt
  simp only [lead, String.length_append, Numeral.length_hex h0 h,
    Numeral.length_hex (Int.natCast_nonneg word.raw) (by omega)]
  rfl

end Line

namespace Listing

/-! ## Rows -/

/-- The column where mnemonics start, which the marker column moves by one. -/
def mnemonicColumn (highlight : Option Int) : Nat :=
  if highlight.isSome then 16 else 15

/-- The word that stands in a row from a column on; nothing if there is a blank. -/
def wordFrom (column : Nat) (row : List Char) : List Char :=
  (row.drop column).takeWhile (· != ' ')

theorem takeWhile_append_blank (word rest : List Char) :
    (word ++ ' ' :: rest).takeWhile (· != ' ') = word.takeWhile (· != ' ') := by
  induction word with
  | nil => rfl
  | cons c word ih => rw [List.cons_append, List.takeWhile_cons, List.takeWhile_cons, ih]

/-- What a row shows leaves at least fourteen of its columns blank. -/
theorem length_row_le (highlight : Option Int) (word : Word) {address : Int} (h0 : 0 ≤ address)
    (h : address < 0x10000) :
    (Segment.joined ((Line.ofWord word address).row highlight)).length ≤ 106 := by
  have hinstruction := word.length_instruction_le
  have hblank : " ".length = 1 := rfl
  rw [Line.joined_row, Line.text_ofWord, String.length_append, String.length_append,
    String.length_append, Line.length_pointer, Line.length_lead word h0 h, hblank]
  split <;> omega

theorem length_rowText (highlight : Option Int) (word : Word) {address : Int} (h0 : 0 ≤ address)
    (h : address < 0x10000) :
    (rowText (some defaultWidth) highlight (Line.ofWord word address)).toList.length = 120 := by
  have hshown := length_row_le highlight word h0 h
  rw [String.length_toList, rowText, Layout.append_blanks_eq, Text.length_filled]
  show max 120 _ = 120
  omega

/-- A row is what stands in front of the mnemonic, the instruction between two blanks, and blanks. -/
theorem toList_rowText (highlight : Option Int) (word : Word) {address : Int} (h0 : 0 ≤ address)
    (h : address < 0x10000) :
    ∃ front rest, front.length + 1 = mnemonicColumn highlight ∧
      (rowText (some defaultWidth) highlight (Line.ofWord word address)).toList =
        front ++ ' ' :: ((Segment.joined word.instruction).toList ++ ' ' :: rest) := by
  obtain ⟨count, hcount⟩ : ∃ count, Layout.shortfall (some defaultWidth)
      ((Line.ofWord word address).row highlight) = count + 1 := by
    have hshown := length_row_le highlight word h0 h
    rw [Nat.exists_eq_add_one]
    show 0 < (120 - _ : Int).toNat
    omega
  refine ⟨((Line.ofWord word address).pointer highlight ++ Line.lead word address).toList,
    List.replicate count ' ', ?_, ?_⟩
  · rw [String.length_toList, String.length_append, Line.length_pointer,
      Line.length_lead word h0 h, mnemonicColumn]
    split <;> rfl
  · rw [rowText, hcount, Line.joined_row, Line.text_ofWord, Text.blanks, List.replicate_succ]
    simp

/-- In every row the mnemonic stands behind a blank in its column. -/
theorem mnemonic_rowText (highlight : Option Int) (word : Word) {address : Int} (h0 : 0 ≤ address)
    (h : address < 0x10000) :
    (rowText (some defaultWidth) highlight (Line.ofWord word address)).toList[
        mnemonicColumn highlight - 1]? = some ' ' ∧
      wordFrom (mnemonicColumn highlight)
        (rowText (some defaultWidth) highlight (Line.ofWord word address)).toList =
          word.mnemonic.toList := by
  obtain ⟨front, rest, hcolumn, hrow⟩ := toList_rowText highlight word h0 h
  rw [hrow, ← hcolumn]
  constructor
  · rw [Nat.add_sub_cancel, List.getElem?_append_right (Nat.le_refl _), Nat.sub_self]
    rfl
  · rw [wordFrom, List.drop_append, List.drop_of_length_le (by omega), Nat.add_sub_cancel_left,
      List.nil_append, List.drop_succ_cons, List.drop_zero, takeWhile_append_blank,
      word.takeWhile_instruction]

/-- **Listings stay in their columns.** At the default width, with or without a highlight, the listing
of a region of a word or more below `0x10000` has one row for each word. Each row is exactly 120
characters wide, and has the mnemonic of its line in one and the same column, behind a blank and up to
the next. -/
theorem print_fixed_width [Capacity] (image : Image) (region : Region) (hvalid : region.Valid)
    (hwords : region.base < region.limit) (hfits : region.limit ≤ image.size)
    (hlimit : region.limit ≤ 0x10000) (highlight : Option Int) :
    ∃ lines text, ofImage image region = .ok lines ∧
      render lines (some defaultWidth) highlight = .ok text ∧
      ((cut text).length : Int) = (region.limit - region.base) / 2 ∧
      (cut text).length = lines.length ∧
      (∀ row ∈ cut text, row.length = 120) ∧
      ∀ i (h : i < (cut text).length) (h' : i < lines.length),
        (cut text)[i][mnemonicColumn highlight - 1]? = some ' ' ∧
        wordFrom (mnemonicColumn highlight) (cut text)[i] = lines[i].mnemonic.toList := by
  have hroom : HasRoom (ofWords region.base (image.words region)) (some defaultWidth) highlight := by
    have hmemory := Capacity.addresses_lt_memoryLimit
    apply hasRoom_of_lt
    rintro columns ⟨⟩
    show (120 : Int) < _
    omega
  obtain ⟨hcount, hlines⟩ := fetched_ofWords image hvalid hfits
  -- every line is that of a word whose address has four digits
  have hline : ∀ i (h : i < (ofWords region.base (image.words region)).length),
      ∃ word address, 0 ≤ address ∧ address < 0x10000 ∧
        (ofWords region.base (image.words region))[i] = Line.ofWord word address := by
    intro i h
    obtain ⟨word, _, hshown⟩ := hlines i h
    have hbase := hvalid.base_nonneg
    exact ⟨word, region.base + 2 * i, by omega, by omega, hshown⟩
  refine ⟨_, _, ofImage_eq_ok image hvalid hfits, render_eq hroom, ?_⟩
  rw [cut_print hvalid hwords hfits (print_eq image hvalid hfits hroom)]
  refine ⟨?_, ?_, ?_, ?_⟩
  · rw [List.length_map]
    exact hcount
  · exact List.length_map _
  · rw [List.forall_mem_map]
    intro line hmem
    obtain ⟨i, h, rfl⟩ := List.getElem_of_mem hmem
    obtain ⟨word, address, h0, hlow, hshown⟩ := hline i h
    rw [hshown]
    exact length_rowText highlight word h0 hlow
  · intro i _ h
    obtain ⟨word, address, h0, hlow, hshown⟩ := hline i h
    rw [List.getElem_map, hshown]
    exact mnemonic_rowText highlight word h0 hlow

/-- The longest instruction of all and a word that is none, with the second highlighted. -/
theorem print_fixed_width_longest :
    letI : Capacity := .tebibyte
    let image : Image := ⟨#[0x8F, 0xE6, 0x00, 0x00]⟩
    (⟨0, 4⟩ : Region).Valid ∧ (4 : Int) ≤ image.size ∧
      ∃ lines text, ofImage image ⟨0, 4⟩ = .ok lines ∧
        render lines (some defaultWidth) (some 2) = .ok text ∧ (cut text).length = 2 ∧
        ∀ row ∈ cut text, row.length = 120 := by
  let : Capacity := .tebibyte
  intro image
  obtain ⟨lines, text, hlines, htext, hcount, _, hwidth, _⟩ :=
    print_fixed_width image ⟨0, 4⟩ (by decide) (by decide) (by decide) (by decide) (some 2)
  refine ⟨by decide, by decide, lines, text, hlines, htext, ?_, hwidth⟩
  change ((cut text).length : Int) = (4 - 0) / 2 at hcount
  omega

end Listing

end Chip8
