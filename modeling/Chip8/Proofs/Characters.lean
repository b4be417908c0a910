import Chip8.Proofs.Numeral
import Chip8.Proofs.RowText

/-!
# The characters of a listing

What a listing shows is free of control characters: no text of the instruction set has one, and
numerals, marks and blanks have none either. So a line break in a listing always ends a row, which
is what makes its text readable row by row.

`Text.clean` is a check that can be run. It is run once, on the texts of the rules
(`Opcode.clean_rule`); everything else follows from how texts are put together.
-/

namespace Chip8

namespace Text

/-! ## Texts without control characters -/

/-- Whether a text is free of control characters. -/
def clean (text : String) : Bool :=
  text.toList.all fun c => ' ' ≤ c

theorem clean_append {left right : String} (hleft : clean left = true)
    (hright : clean right = true) : clean (left ++ right) = true := by
  rw [clean, String.toList_append, List.all_append, Bool.and_eq_true]
  exact ⟨hleft, hright⟩

theorem clean_join {texts : List String} (h : ∀ text ∈ texts, clean text = true) :
    clean (String.join texts) = true := by
  rw [clean, String.toList_join, List.all_flatMap, List.all_eq_true]
  exact h

/-- A line break is a control character. -/
theorem newline_not_mem {text : String} (h : clean text = true) : '\n' ∉ text.toList :=
  fun hc => absurd (List.all_eq_true.mp h '\n' hc) (by decide)

theorem clean_blanks (count : Nat) : clean (blanks count) = true := by
  rw [clean, blanks, String.toList_ofList, List.all_replicate]
  simp

/-- Numerals of every radix and width, signs included. -/
theorem clean_numeral (r : Radix) (width : Nat) (n : Int) :
    clean (Numeral.render r width n) = true := by
  have hdigit : ∀ r : Radix, ∀ k : Fin r.base, ' ' ≤ (k : Nat).digitChar := by
    intro r
    cases r <;> decide
  rw [clean, Numeral.render, String.toList_ofList, List.all_eq_true]
  intro c hc
  rcases Numeral.mem_chars hc with rfl | ⟨k, hk, rfl⟩
  · decide
  · exact decide_eq_true (hdigit r ⟨k, hk⟩)

theorem clean_hex (width : Nat) (n : Int) : clean (Numeral.hex width n) = true :=
  clean_append (by decide) (clean_numeral _ _ _)

theorem clean_field (f : Field) (w : Word) : clean (f.render w) = true := by
  have hmark : clean f.mark = true := by
    cases f <;> decide
  exact clean_append hmark (clean_numeral _ _ _)

/-- A stream is clean if its segments are. -/
theorem clean_joined {segments : List Segment}
    (h : ∀ segment ∈ segments, clean segment.text = true) :
    clean (Segment.joined segments) = true := by
  apply clean_join
  intro text htext
  obtain ⟨segment, hsegment, rfl⟩ := List.mem_map.mp htext
  exact h segment hsegment

end Text

/-! ## The texts of the instruction set -/

/-- Whether the text of a piece is clean; fields always are. -/
def Piece.clean : Piece → Bool
  | .text words => Text.clean words
  | .field _ => true

/-- Whether all texts of a rule are clean. -/
def Rule.clean (rule : Rule) : Bool :=
  Text.clean rule.mnemonic &&
    (rule.operands.all fun operand => operand.template.all Piece.clean) &&
    rule.comment.all Piece.clean

theorem Template.clean_render {t : Template} (h : t.all Piece.clean = true) (w : Word) :
    Text.clean (t.render w) = true := by
  apply Text.clean_join
  intro text htext
  obtain ⟨piece, hpiece, rfl⟩ := List.mem_map.mp htext
  cases piece with
  | text words => exact List.all_eq_true.mp h _ hpiece
  | field f => exact Text.clean_field f w

/-- The texts of all rules are clean. -/
theorem Opcode.clean_rule (op : Opcode) : op.rule.clean = true := by
  cases op
  all_goals
    simp only [Opcode.rule, Rule.clean, List.all_cons, List.all_nil, Piece.clean, Text.clean,
      Operand.vx, Operand.vy, Operand.nibble, Operand.byte, Operand.target, Operand.index,
      Operand.v0, Operand.plus]
    -- literals as lists of characters: deciding on strings would unfold their encoding
    repeat rw [String.toList_ofList]
    decide

/-- What a rule writes is clean if its texts are, whatever the word. -/
theorem Rule.clean_segments {rule : Rule} (h : rule.clean = true) (w : Word) :
    ∀ segment ∈ rule.segments w, Text.clean segment.text = true := by
  simp only [Rule.clean, Bool.and_eq_true, List.all_eq_true] at h
  obtain ⟨⟨hmnemonic, hoperands⟩, hcomment⟩ := h
  intro segment hsegment
  rcases List.mem_append.mp hsegment with hfront | hback
  · rcases List.mem_cons.mp hfront with rfl | hoperand
    · exact hmnemonic
    · obtain ⟨operand, hmem, rfl⟩ := List.mem_map.mp hoperand
      exact Template.clean_render (List.all_eq_true.mpr (hoperands operand hmem)) w
  · rw [List.mem_singleton.mp hback]
    exact Text.clean_append (by decide) (Template.clean_render (List.all_eq_true.mpr hcomment) w)

theorem Word.clean_instruction (w : Word) :
    ∀ segment ∈ w.instruction, Text.clean segment.text = true := by
  rw [Word.instruction, Word.rule?]
  cases Opcode.ofWord? w with
  | none =>
    intro segment hsegment
    rw [List.mem_singleton.mp hsegment]
    decide
  | some op => exact Rule.clean_segments op.clean_rule w

/-! ## Lines and rows -/

namespace Line

/-- The line of a word is clean, whatever the word denotes. -/
theorem clean_segments (word : Word) (address : Int) :
    ∀ segment ∈ (ofWord word address).segments, Text.clean segment.text = true := by
  intro segment hsegment
  rcases List.mem_append.mp hsegment with hcolumn | hinstruction
  · simp only [List.mem_cons, List.not_mem_nil, or_false] at hcolumn
    rcases hcolumn with rfl | rfl | rfl
    · exact Text.clean_append (Text.clean_hex _ _) (by decide)
    · exact Text.clean_append (Text.clean_hex _ _) (by decide)
    · decide
  · exact word.clean_instruction segment hinstruction

theorem clean_marker (highlight : Option Int) (line : Line) :
    ∀ segment ∈ line.marker highlight, Text.clean segment.text = true := by
  intro segment hsegment
  cases highlight with
  | none => exact absurd hsegment List.not_mem_nil
  | some address =>
    rw [List.mem_singleton.mp hsegment]
    show Text.clean (if line.address = address then ">" else " ") = true
    split <;> decide

end Line

/-- A row of the listing has no control character, so nothing in it ends the row early. -/
theorem Listing.clean_rowText (width highlight : Option Int) (word : Word) (address : Int) :
    Text.clean (rowText width highlight (Line.ofWord word address)) = true := by
  refine Text.clean_append (Text.clean_joined ?_) (Text.clean_blanks _)
  intro segment hsegment
  rcases List.mem_append.mp hsegment with hmarker | hline
  · exact Line.clean_marker highlight _ segment hmarker
  · exact Line.clean_segments word address segment hline

end Chip8
