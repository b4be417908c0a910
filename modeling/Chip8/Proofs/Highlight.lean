import Chip8.Proofs.Correlation
import Chip8.Proofs.PlainRows

/-!
# The highlighted line

Two parts of the program say which line belongs to an address. A listing compares the address of each
line with the highlighted one as it is laid out, and `Disassembly.lineIndex` computes a position from
the address alone, with refusals of its own. This file shows that they mean the same line: the rows
with the pointer are those at a position that is found, so there is one or none.

The other half is about columns. Highlighting puts one character in front of every row and takes one
blank off its end, so a highlighted row is the row without highlight at a width of one less, behind
its marker (`Listing.toList_rowText_some`). The blanks of the two rows are equally many, hence there
is room for one listing exactly if there is for the other, and where there is none both are refused
alike (`Listing.checkRoom_narrowed`).

The main statement is `Disassembly.highlight_agrees`. `Disassembly.highlight_beyond_index` is a width
at which neither listing is made.
-/

namespace Chip8

namespace Listing

/-! ## One column less -/

/-- The width that the marker column leaves. -/
def narrowed (width : Option Int) : Option Int :=
  width.map (· - 1)

theorem shortfall_narrowed (width : Option Int) (address : Int) (line : Line) :
    Layout.shortfall width (line.row (some address)) =
      Layout.shortfall (narrowed width) (line.row none) := by
  cases width with
  | none => rfl
  | some columns =>
    have hlength : (Segment.joined (line.row (some address))).length =
        (Segment.joined (line.row none)).length + 1 := by
      rw [Line.joined_row, Line.joined_row, String.length_append, String.length_append,
        Line.length_pointer, Line.length_pointer, Option.isSome_some, Option.isSome_none, if_pos rfl,
        if_neg Bool.false_ne_true]
      omega
    show (columns - _).toNat = (columns - 1 - _).toNat
    rw [hlength]
    omega

/-- A highlighted row is its marker and the row without one, at a width of one less. -/
theorem toList_rowText_some (width : Option Int) (address : Int) (line : Line) :
    (rowText width (some address) line).toList =
      (if line.address = address then '>' else ' ') ::
        (rowText (narrowed width) none line).toList := by
  rw [rowText, rowText, shortfall_narrowed, Line.joined_row, Line.joined_row]
  simp only [Line.pointer]
  split <;> simp

/-- The blanks are checked alike, row by row. -/
theorem checkRoom_narrowed [Capacity] (lines : List Line) (width : Option Int) (address : Int) :
    Layout.checkRoom width (lines.map (Line.row (some address))) =
      Layout.checkRoom (narrowed width) (lines.map (Line.row none)) := by
  induction lines with
  | nil => rfl
  | cons line rest ih =>
    rw [List.map_cons, List.map_cons, Layout.checkRoom, Layout.checkRoom, shortfall_narrowed, ih]

theorem hasRoom_narrowed [Capacity] {lines : List Line} {width : Option Int} {address : Int}
    (h : HasRoom lines width (some address)) : HasRoom lines (narrowed width) none := by
  intro line hline
  rw [← shortfall_narrowed width address line]
  exact h line hline

/-- Without room for their blanks, both listings are refused for the same row. -/
theorem render_narrowed_error [Capacity] {lines : List Line} {width : Option Int} {address : Int}
    (h : ¬HasRoom lines width (some address)) :
    ∃ fault, (∃ length, fault = .textBeyondIndex length ∨ fault = .textTooLarge length) ∧
      render lines width (some address) = .error fault ∧
      render lines (narrowed width) none = .error fault := by
  obtain ⟨fault, hlength, hrender, hsegments⟩ := refused_of_not_hasRoom h
  refine ⟨fault, hlength, hrender, ?_⟩
  rw [render_eq_error_iff, segments_eq_error_iff, ← checkRoom_narrowed lines width address,
    ← segments_eq_error_iff]
  exact hsegments

/-! ## The rows of a text -/

/-- The rows of a text, of which the empty text has none. -/
def rowsOf (text : String) : List (List Char) :=
  if text = "" then [] else cut text

/-- The text of rows. -/
def ofRows (rows : List (List Char)) : String :=
  "\n".intercalate (rows.map String.ofList)

theorem rowText_ne_empty (width highlight : Option Int) (word : Word) (address : Int) :
    (rowText width highlight (Line.ofWord word address)).toList ≠ [] := by
  intro hnil
  -- nothing can be read from an empty row
  have hread := readRow?_rowText width highlight word address
  rw [hnil] at hread
  cases highlight with
  | none => cases hread
  | some _ => cases hread

/-- The rows of a listing are those of its lines, also where there are none. -/
theorem rowsOf_rows (base : Int) (words : List Word) (width highlight : Option Int) :
    rowsOf ("\n".intercalate ((ofWords base words).map (rowText width highlight))) =
      (ofWords base words).map fun line => (rowText width highlight line).toList := by
  by_cases hwords : words = []
  · rw [hwords]
    rfl
  · unfold rowsOf
    split
    next hempty =>
      -- the empty text is cut into one empty row, and no row of a line is empty
      have hrow : [] ∈ (ofWords base words).map fun line =>
          (rowText width highlight line).toList := by
        rw [← cut_rows hwords, hempty]
        exact List.mem_singleton.mpr rfl
      obtain ⟨line, hline, hnil⟩ := List.mem_map.mp hrow
      obtain ⟨word, address, rfl⟩ := mem_ofWords hline
      exact absurd hnil (rowText_ne_empty width highlight word address)
    next => exact cut_rows hwords width highlight

/-- Without their first characters, highlighted rows are the rows without highlight. -/
theorem ofRows_drop (lines : List Line) (width : Option Int) (address : Int) :
    ofRows ((lines.map fun line => (rowText width (some address) line).toList).map (List.drop 1)) =
      "\n".intercalate (lines.map (rowText (narrowed width) none)) := by
  rw [ofRows, List.map_map, List.map_map]
  refine congrArg _ (List.map_congr_left fun line _ => ?_)
  simp only [Function.comp_apply, toList_rowText_some, List.drop_succ_cons, List.drop_zero,
    String.ofList_toList]

end Listing

namespace Disassembly

/-! ## Pointers and positions -/

/-- The row of the line that is found has the pointer, and every other row has a blank. -/
theorem Made.head?_rowText {d : Disassembly} (hmade : d.Made) (address : Int) (width : Option Int)
    {i : Nat} (h : i < d.lines.length) :
    (d.lineIndex address = .ok i ∧
      (Listing.rowText width (some address) d.lines[i]).toList.head? = some '>') ∨
    (d.lineIndex address ≠ .ok i ∧
      (Listing.rowText width (some address) d.lines[i]).toList.head? = some ' ') := by
  rw [Listing.toList_rowText_some, List.head?_cons, ne_eq, hmade.lineIndex_eq_ok_iff]
  by_cases haddress : d.lines[i].address = address
  · rw [if_pos haddress]
    exact Or.inl ⟨⟨h, haddress⟩, rfl⟩
  · rw [if_neg haddress]
    exact Or.inr ⟨fun ⟨_, hsame⟩ => haddress hsame, rfl⟩

/-- There is no pointer exactly if the address has no line. -/
theorem Made.forall_head?_iff {d : Disassembly} (hmade : d.Made) (address : Int)
    (width : Option Int) :
    (∀ line ∈ d.lines, (Listing.rowText width (some address) line).toList.head? ≠ some '>') ↔
      ∃ cause, d.lineIndex address = .error (.address cause) := by
  constructor
  · intro hnone
    -- an address that is found would mark the row of its line
    obtain ⟨_, cause, hfault, _⟩ | ⟨_, _, index, h, _, hfound, _⟩ := d.lineIndex_cases address
    · exact ⟨cause, hfault⟩
    · obtain ⟨_, hpointer⟩ | ⟨hnot, _⟩ := hmade.head?_rowText address width h
      · exact absurd hpointer (hnone _ (List.getElem_mem h))
      · exact absurd hfound hnot
  · intro ⟨cause, hfault⟩ line hline hpointer
    obtain ⟨i, h, rfl⟩ := List.getElem_of_mem hline
    obtain ⟨hfound, _⟩ | ⟨_, hblank⟩ := hmade.head?_rowText address width h
    · rw [hfault] at hfound
      cases hfound
    · rw [hblank] at hpointer
      exact absurd hpointer (by decide)

/-- **Highlighting agrees with looking up.** In the listing of a disassembly that was made, with room
for the blanks of every row, each row starts with the pointer if its position is the one found for
the highlighted address, and with a blank if it is not. No row has the pointer exactly if the address
is refused. Without their first characters the rows are the listing without highlight, at a width of
one less. Without room both listings are refused as too long a text. There is room for every width
below the limit, and where no width is asked for. -/
theorem highlight_agrees [Capacity] {cells : Cells} {region : Region} {d : Disassembly}
    (hd : ofCells cells region = .ok d) (address : Int) (width : Option Int) :
    (Listing.HasRoom d.lines width (some address) →
      ∃ text, Listing.render d.lines width (some address) = .ok text ∧
        (Listing.rowsOf text).length = d.lines.length ∧
        (∀ i (h : i < (Listing.rowsOf text).length),
          (d.lineIndex address = .ok i ∧ (Listing.rowsOf text)[i].head? = some '>') ∨
          (d.lineIndex address ≠ .ok i ∧ (Listing.rowsOf text)[i].head? = some ' ')) ∧
        ((∀ row ∈ Listing.rowsOf text, row.head? ≠ some '>') ↔
          ∃ cause, d.lineIndex address = .error (.address cause)) ∧
        Listing.render d.lines (width.map (· - 1)) none =
          .ok (Listing.ofRows ((Listing.rowsOf text).map (List.drop 1)))) ∧
    (¬Listing.HasRoom d.lines width (some address) →
      ∃ fault, (∃ length, fault = .textBeyondIndex length ∨ fault = .textTooLarge length) ∧
        Listing.render d.lines width (some address) = .error fault ∧
        Listing.render d.lines (width.map (· - 1)) none = .error fault) ∧
    ((∀ columns, width = some columns → columns < Capacity.memoryLimit) →
      Listing.HasRoom d.lines width (some address)) := by
  obtain ⟨_, _, hmade⟩ := made_of_ofCells hd
  refine ⟨?_, Listing.render_narrowed_error, fun h => Listing.hasRoom_of_lt h _ _⟩
  intro hroom
  have hrows : Listing.rowsOf
      ("\n".intercalate (d.lines.map (Listing.rowText width (some address)))) =
        d.lines.map fun line => (Listing.rowText width (some address) line).toList := by
    rw [hmade.lines_eq]
    exact Listing.rowsOf_rows _ _ _ _
  refine ⟨_, Listing.render_eq hroom, ?_⟩
  rw [hrows]
  refine ⟨List.length_map _, ?_, ?_, ?_⟩
  · intro i h
    rw [List.getElem_map]
    exact hmade.head?_rowText address width (by rwa [List.length_map] at h)
  · rw [List.forall_mem_map]
    exact hmade.forall_head?_iff address width
  · rw [Listing.ofRows_drop]
    exact Listing.render_eq (Listing.hasRoom_narrowed hroom)

/-- Two words at an offset, the second highlighted: its row has the pointer, the other a blank. -/
theorem highlight_agrees_two_words :
    letI : Capacity := .tebibyte
    ∃ d, ofCells #[0x12, 0x00, 0x00, 0xE0, 0xFF, 0xFF, 0x01] ⟨2, 6⟩ = .ok d ∧
      d.lineIndex 4 = .ok 1 ∧
      ∃ text, Listing.render d.lines (some 120) (some 4) = .ok text ∧
        ∃ _ : 1 < (Listing.rowsOf text).length,
          (Listing.rowsOf text)[0].head? = some ' ' ∧ (Listing.rowsOf text)[1].head? = some '>' := by
  let : Capacity := .tebibyte
  have hcells : Cells.AllBytes #[0x12, 0x00, 0x00, 0xE0, 0xFF, 0xFF, 0x01] := by
    unfold Cells.AllBytes
    decide
  obtain ⟨d, hd⟩ := exists_ofCells hcells (show Region.Valid ⟨2, 6⟩ by decide) (by decide)
  obtain ⟨_, hregion, hmade⟩ := made_of_ofCells hd
  have hlength : (d.lines.length : Int) = (6 - 2) / 2 := by
    rw [hmade.fetched.1, hregion]
  have hfound : d.lineIndex 4 = .ok 1 := by
    rw [hmade.lineIndex_eq_ok_iff]
    refine ⟨by omega, ?_⟩
    rw [hmade.address_getElem, hregion]
    rfl
  obtain ⟨hshown, _, hlow⟩ := highlight_agrees hd 4 (some 120)
  have hbelow : ∀ columns : Int, some 120 = some columns → columns < Capacity.memoryLimit := by
    rintro columns ⟨⟩
    decide
  obtain ⟨text, hrender, hcount, heach, _⟩ := hshown (hlow hbelow)
  refine ⟨d, hd, hfound, text, hrender, by omega, ?_, ?_⟩
  · obtain ⟨hother, _⟩ | ⟨_, hblank⟩ := heach 0 (by omega)
    · rw [hfound] at hother
      cases hother
    · exact hblank
  · obtain ⟨_, hpointer⟩ | ⟨hnot, _⟩ := heach 1 (by omega)
    · exact hpointer
    · exact absurd hfound hnot

/-- One word, highlighted, at a width of more blanks than can be counted, whatever memory there is. -/
theorem highlight_beyond_index :
    ∃ d, ofCells #[0x00, 0xE0] ⟨0, 2⟩ = .ok d ∧ d.lineIndex 0 = .ok 0 ∧
      ¬∃ (_ : Capacity) (text : String),
        Listing.render d.lines (some 9223372036854775843) (some 0) = .ok text := by
  have hbytes : Cells.AllBytes #[0x00, 0xE0] := by
    unfold Cells.AllBytes
    decide
  have himage : Image.ofCells #[0x00, 0xE0] = .ok ⟨#[0x00, 0xE0]⟩ := by
    rw [Image.ofCells_of_allBytes hbytes]
    simp
  refine ⟨⟨⟨#[0x00, 0xE0]⟩, [Line.ofWord (Word.pack 0x00 0xE0) 0], ⟨0, 2⟩⟩, ?_, by rfl, ?_⟩
  · rw [ofCells, himage]
    rfl
  · rintro ⟨_, text, h⟩
    have hfault : Listing.render [Line.ofWord (Word.pack 0x00 0xE0) 0]
        (some 9223372036854775843) (some 0) = .error (.textBeyondIndex 9223372036854775808) := by
      rfl
    rw [hfault] at h
    cases h

end Disassembly

end Chip8
