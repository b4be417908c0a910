import Chip8.Proofs.Manual

/-!
# What the text of an instruction tells

An instruction is written as its mnemonic, its operands and a comment, one behind the other and
without any mark of where one ends. This file shows that nothing is blurred by that: the text tells
the rule, and the values of all fields that the operands show. What the text does not tell are the
digits of the word that the table of the manual leaves free.

Two facts carry it. A mnemonic has no blank and what follows it starts with one, so the first word of
the text is the mnemonic, and no two rules have the same (`Opcode.spelled_eq_iff`). And a field is
always written with the same number of characters, so two texts from one template can be compared
piece by piece (`Template.spelled_append_inj`). That the comment adds nothing is a fact of the table:
`Opcode.comment_shown`.

The main statement is `Manual.text_tells_all_but_free`.
-/

namespace Chip8

/-! ## Templates -/

/-- The fields that stand in a template. -/
def Template.fields (t : Template) : List Field :=
  t.filterMap fun
    | .text _ => none
    | .field f => some f

/-- The fields that the operands of a rule show. -/
def Rule.shown (rule : Rule) : List Field :=
  rule.operands.flatMap fun operand => Template.fields operand.template

/-- Mnemonic and operands as one template. -/
def Rule.front (rule : Rule) : Template :=
  .text rule.mnemonic :: rule.operands.flatMap Operand.template

/-- The comment behind its slashes. -/
def Rule.remark (rule : Rule) : Template :=
  .text " //" :: rule.comment

/-- The instruction part of a line without its comment. -/
def Word.statement (w : Word) : List Segment :=
  w.instruction.filter fun segment => segment.tag != .comment

/-- The characters of a template for a word. -/
def Template.spelled (t : Template) (w : Word) : List Char :=
  t.flatMap (Manual.Digits.ofWord w).piece

namespace Template

theorem toList_render (t : Template) (w : Word) : (t.render w).toList = t.spelled w :=
  Manual.Digits.toList_template t w

theorem spelled_append (t t' : Template) (w : Word) :
    spelled (t ++ t') w = t.spelled w ++ t'.spelled w :=
  List.flatMap_append

theorem fields_append (t t' : Template) : fields (t ++ t') = t.fields ++ t'.fields :=
  List.filterMap_append

end Template

/-- The text of a field tells its value. -/
theorem Field.value_eq_of_render_eq {f : Field} {w w' : Word} (h : f.render w = f.render w') :
    w.field f = w'.field f := by
  have hchars := congrArg String.toList h
  rw [render, render, String.toList_append, String.toList_append, List.append_cancel_left_eq,
    Numeral.render, Numeral.render, String.toList_ofList, String.toList_ofList] at hchars
  have hread := congrArg (Numeral.read? .hexadecimal) hchars
  rw [Numeral.read?_chars, Numeral.read?_chars, Option.some.injEq] at hread
  exact Int.ofNat.inj hread

/-- A field is written the same for two words exactly if it has the same value. -/
theorem Manual.Digits.field_eq_iff (w w' : Word) (f : Field) :
    (ofWord w).field f = (ofWord w').field f ↔ w.field f = w'.field f := by
  rw [← toList_render, ← toList_render, String.toList_inj]
  constructor
  · exact Field.value_eq_of_render_eq
  · intro hvalue
    rw [Field.render, Field.render, hvalue]

/-- What is written for a field takes the same room for every word. -/
theorem Manual.Digits.length_field (d d' : Digits) (f : Field) :
    (d.field f).length = (d'.field f).length := by
  cases f <;> rfl

/-- Two texts from one template, whatever is behind them, are the same exactly if every field has the
same value for both words. -/
theorem Template.spelled_append_inj (t : Template) (w w' : Word) (rest rest' : List Char) :
    t.spelled w ++ rest = t.spelled w' ++ rest' ↔
      (∀ f ∈ t.fields, w.field f = w'.field f) ∧ rest = rest' := by
  induction t with
  | nil => simp [spelled, fields]
  | cons piece t ih =>
    unfold spelled at ih ⊢
    rw [List.flatMap_cons, List.flatMap_cons, List.append_assoc, List.append_assoc]
    cases piece with
    | text words =>
      rw [Manual.Digits.piece, Manual.Digits.piece, List.append_cancel_left_eq, ih]
      rfl
    | field f =>
      have hlength := Manual.Digits.length_field (Manual.Digits.ofWord w) (Manual.Digits.ofWord w') f
      have hfields : fields (.field f :: t) = f :: fields t := rfl
      rw [hfields, List.forall_mem_cons, and_assoc, ← ih, ← Manual.Digits.field_eq_iff]
      constructor
      · exact fun h => List.append_inj h hlength
      · rintro ⟨hfield, hrest⟩
        rw [Manual.Digits.piece, Manual.Digits.piece, hfield, hrest]

/-! ## Rules -/

/-- A template that does not start in the middle of a word: it is empty, or its first text starts with
a blank. -/
def Template.isApart : Template → Bool
  | [] => true
  | .text words :: _ => words.toList.head? == some ' '
  | .field _ :: _ => false

theorem Template.takeWhile_spelled {t : Template} (h : t.isApart = true) (w : Word) :
    (t.spelled w).takeWhile (· != ' ') = [] := by
  cases t with
  | nil => rfl
  | cons piece t =>
    cases piece with
    | text words =>
      rw [isApart, beq_iff_eq] at h
      rw [spelled, List.flatMap_cons, Manual.Digits.piece]
      cases hchars : words.toList with
      | nil =>
        rw [hchars] at h
        cases h
      | cons c rest =>
        rw [hchars, List.head?_cons, Option.some.injEq] at h
        rw [h]
        rfl
    | field f => cases h

namespace Opcode

/-- A mnemonic tells its instruction. -/
theorem find?_mnemonic (op : Opcode) :
    (all.find? fun other => other.rule.mnemonic == op.rule.mnemonic) = some op := by
  cases op <;> decide

theorem eq_of_mnemonic_eq {op op' : Opcode} (h : op.rule.mnemonic = op'.rule.mnemonic) :
    op = op' := by
  have hfound := find?_mnemonic op
  rw [h, find?_mnemonic] at hfound
  exact (Option.some.inj hfound).symm

/-- A mnemonic is one word, and what may follow it is not part of that word. -/
theorem mnemonic_apart (op : Opcode) :
    (op.rule.mnemonic.toList.all (· != ' ')) = true ∧
      Template.isApart (op.rule.operands.flatMap Operand.template) = true ∧
      Template.isApart (op.rule.operands.flatMap Operand.template ++ op.rule.remark) = true := by
  cases op <;> decide

/-- The comment shows no field that the operands do not. -/
theorem comment_shown (op : Opcode) : ∀ f ∈ op.rule.comment.fields, f ∈ op.rule.shown := by
  cases op <;> decide

/-- The comment is the only part of an instruction that is tagged as one. -/
theorem operand_tag_ne (op : Opcode) : ∀ operand ∈ op.rule.operands, operand.tag ≠ .comment := by
  cases op <;> decide

end Opcode

theorem Rule.fields_front (rule : Rule) : rule.front.fields = rule.shown := by
  show Template.fields (rule.operands.flatMap Operand.template) = _
  rw [Template.fields, List.filterMap_flatMap]
  rfl

/-- The first word of what a rule writes is its mnemonic. -/
theorem Opcode.takeWhile_spelled (op : Opcode) (w : Word) {tail : Template}
    (h : Template.isApart (op.rule.operands.flatMap Operand.template ++ tail) = true) :
    ((op.rule.front ++ tail).spelled w).takeWhile (· != ' ') = op.rule.mnemonic.toList := by
  have hwhole : (op.rule.front ++ tail).spelled w = op.rule.mnemonic.toList ++
      Template.spelled (op.rule.operands.flatMap Operand.template ++ tail) w := rfl
  have hword := List.all_eq_true.mp op.mnemonic_apart.1
  rw [hwhole, List.takeWhile_append_of_pos hword, Template.takeWhile_spelled h, List.append_nil]

/-- What rules write, with more behind it that adds no field, is the same exactly for one rule and the
same values of the fields it shows. -/
theorem Opcode.spelled_eq_iff (more : Rule → Template)
    (hapart : ∀ op : Opcode,
      Template.isApart (op.rule.operands.flatMap Operand.template ++ more op.rule) = true)
    (hfields : ∀ op : Opcode, ∀ f ∈ (more op.rule).fields, f ∈ op.rule.shown)
    (op op' : Opcode) (w w' : Word) :
    (op.rule.front ++ more op.rule).spelled w = (op'.rule.front ++ more op'.rule).spelled w' ↔
      op = op' ∧ ∀ f ∈ op.rule.shown, w.field f = w'.field f := by
  have hsame : ∀ op : Opcode,
      (op.rule.front ++ more op.rule).spelled w = (op.rule.front ++ more op.rule).spelled w' ↔
        ∀ f ∈ op.rule.shown, w.field f = w'.field f := by
    intro op
    have hinj := Template.spelled_append_inj (op.rule.front ++ more op.rule) w w' [] []
    rw [List.append_nil, List.append_nil, and_iff_left rfl] at hinj
    rw [hinj, Template.fields_append, Rule.fields_front, List.forall_mem_append]
    exact and_iff_left_of_imp fun h f hf => h f (hfields op f hf)
  constructor
  · intro h
    have hwords := congrArg (List.takeWhile (· != ' ')) h
    rw [op.takeWhile_spelled w (hapart op), op'.takeWhile_spelled w' (hapart op'),
      String.toList_inj] at hwords
    cases Opcode.eq_of_mnemonic_eq hwords
    exact ⟨rfl, (hsame op).mp h⟩
  · rintro ⟨rfl, h⟩
    exact (hsame op).mpr h

/-! ## Words -/

/-- The segments that a rule writes in front of its comment. -/
def Rule.frontSegments (rule : Rule) (w : Word) : List Segment :=
  ⟨rule.mnemonic, .keyword⟩ ::
    rule.operands.map fun operand => ⟨operand.template.render w, operand.tag⟩

theorem Rule.toList_joined_front (rule : Rule) (w : Word) :
    (Segment.joined (rule.frontSegments w)).toList = rule.front.spelled w := by
  have hoperands : ∀ operands : List Operand,
      (Segment.joined (operands.map fun operand =>
        ⟨operand.template.render w, operand.tag⟩)).toList =
        Template.spelled (operands.flatMap Operand.template) w := by
    intro operands
    induction operands with
    | nil => rfl
    | cons operand rest ih =>
      rw [List.map_cons, Segment.joined_cons, String.toList_append, ih, Template.toList_render,
        List.flatMap_cons, Template.spelled_append]
  rw [frontSegments, Segment.joined_cons, String.toList_append, hoperands]
  rfl

theorem Rule.toList_joined_segments (rule : Rule) (w : Word) :
    (Segment.joined (rule.segments w)).toList = (rule.front ++ rule.remark).spelled w := by
  have hsegments : rule.segments w =
      rule.frontSegments w ++ [⟨" //" ++ rule.comment.render w, .comment⟩] := rfl
  rw [hsegments, Segment.joined_append, String.toList_append, toList_joined_front,
    Template.spelled_append, Segment.joined_cons, String.toList_append, String.toList_append,
    Template.toList_render, Segment.joined_nil, String.toList_empty, List.append_nil]
  rfl

namespace Word

theorem instruction_of_none {w : Word} (h : Opcode.ofWord? w = none) :
    w.instruction = [⟨"", .keyword⟩] := by
  rw [instruction, rule?, h]
  rfl

theorem instruction_of_some {w : Word} {op : Opcode} (h : Opcode.ofWord? w = some op) :
    w.instruction = op.rule.segments w := by
  rw [instruction, rule?, h]
  rfl

/-- Without its comment an instruction is what its rule writes in front. -/
theorem statement_of_some {w : Word} {op : Opcode} (h : Opcode.ofWord? w = some op) :
    w.statement = op.rule.frontSegments w := by
  rw [statement, instruction_of_some h]
  show List.filter _ (op.rule.frontSegments w ++ [_]) = _
  have hfront : ∀ segment ∈ op.rule.frontSegments w, (segment.tag != .comment) = true := by
    intro segment hsegment
    rw [bne_iff_ne]
    rcases List.mem_cons.mp hsegment with rfl | hoperand
    · exact fun htag => nomatch htag
    · obtain ⟨operand, hmem, rfl⟩ := List.mem_map.mp hoperand
      exact op.operand_tag_ne operand hmem
  rw [List.filter_append, List.filter_eq_self.mpr hfront]
  exact List.append_nil _

/-- Neither word denotes an instruction, or both denote the same and have the same values in the
fields that its operands show. -/
def Alike (w w' : Word) : Prop :=
  (Opcode.ofWord? w = none ∧ Opcode.ofWord? w' = none) ∨
    ∃ op, Opcode.ofWord? w = some op ∧ Opcode.ofWord? w' = some op ∧
      ∀ f ∈ op.rule.shown, w.field f = w'.field f

/-- What is written of a word, be it with the comment or without, tells it as far as its operands
do. -/
theorem joined_eq_iff_alike (part : Word → List Segment) (more : Rule → Template)
    (hapart : ∀ op : Opcode,
      Template.isApart (op.rule.operands.flatMap Operand.template ++ more op.rule) = true)
    (hfields : ∀ op : Opcode, ∀ f ∈ (more op.rule).fields, f ∈ op.rule.shown)
    (hnone : ∀ w, Opcode.ofWord? w = none → (Segment.joined (part w)).toList = [])
    (hsome : ∀ w op, Opcode.ofWord? w = some op →
      (Segment.joined (part w)).toList = (op.rule.front ++ more op.rule).spelled w)
    (w w' : Word) :
    Segment.joined (part w) = Segment.joined (part w') ↔ Alike w w' := by
  have hne : ∀ {w op}, Opcode.ofWord? w = some op → (Segment.joined (part w)).toList ≠ [] := by
    intro w op h hnil
    have hword := op.takeWhile_spelled w (hapart op)
    rw [← hsome w op h, hnil] at hword
    exact Manual.mnemonic_ne_empty op (String.toList_eq_nil_iff.mp hword.symm)
  rw [← String.toList_inj, Alike]
  cases h : Opcode.ofWord? w with
  | none =>
    cases h' : Opcode.ofWord? w' with
    | none => simp [hnone w h, hnone w' h']
    | some op' =>
      rw [hnone w h]
      simpa using Ne.symm (hne h')
  | some op =>
    cases h' : Opcode.ofWord? w' with
    | none =>
      rw [hnone w' h']
      simpa using hne h
    | some op' =>
      rw [hsome w op h, hsome w' op' h', Opcode.spelled_eq_iff more hapart hfields]
      grind

theorem text_eq_iff_alike (w w' : Word) :
    Segment.joined w.instruction = Segment.joined w'.instruction ↔ Alike w w' := by
  apply joined_eq_iff_alike instruction Rule.remark
  · exact fun op => op.mnemonic_apart.2.2
  · exact fun op => op.comment_shown
  · intro w h
    rw [instruction_of_none h]
    rfl
  · intro w op h
    rw [instruction_of_some h, Rule.toList_joined_segments]

theorem statement_eq_iff_alike (w w' : Word) :
    Segment.joined w.statement = Segment.joined w'.statement ↔ Alike w w' := by
  apply joined_eq_iff_alike statement fun _ => []
  · intro op
    rw [List.append_nil]
    exact op.mnemonic_apart.2.1
  · exact fun _ _ hf => absurd hf List.not_mem_nil
  · intro w h
    rw [statement, instruction_of_none h]
    rfl
  · intro w op h
    rw [statement_of_some h, Rule.toList_joined_front, List.append_nil]

/-- Rules can be told apart as well as instructions. -/
theorem alike_iff_rule (w w' : Word) :
    Alike w w' ↔ (w.rule? = none ∧ w'.rule? = none) ∨
      ∃ rule, w.rule? = some rule ∧ w'.rule? = some rule ∧
        ∀ f ∈ rule.shown, w.field f = w'.field f := by
  rw [Alike, rule?, rule?, Option.map_eq_none_iff, Option.map_eq_none_iff]
  apply or_congr_right
  constructor
  · rintro ⟨op, h, h', hfields⟩
    exact ⟨op.rule, by rw [h]; rfl, by rw [h']; rfl, hfields⟩
  · rintro ⟨rule, h, h', hfields⟩
    obtain ⟨op, hop, rfl⟩ := Option.map_eq_some_iff.mp h
    obtain ⟨op', hop', hrule⟩ := Option.map_eq_some_iff.mp h'
    cases Opcode.eq_of_mnemonic_eq (congrArg Rule.mnemonic hrule)
    exact ⟨op, hop, hop', hfields⟩

end Word

/-! ## Free digits -/

/-- The places of a field's digits in a word, counted from zero. -/
def Field.places : Field → List (Fin 4)
  | .x => [1]
  | .y => [2]
  | .n => [3]
  | .nn => [2, 3]
  | .nnn => [1, 2, 3]

namespace Manual

/-- The digit at a place. -/
def Digits.digit (d : Digits) : Fin 4 → Char
  | 0 => d.d0
  | 1 => d.d1
  | 2 => d.d2
  | 3 => d.d3

/-- A row leaves the digit at a place free: its pattern has a mark there, and no operand shows what
stands for it. -/
def Row.leavesFree (row : Row) (place : Fin 4) : Bool :=
  row.pattern.toList[place.val]?.any fun p =>
    ['?', 'X', 'Y', 'N'].contains p &&
      !row.operands.any fun operand => operand.text.toList.contains p

/-- The pattern of a row gives the digit at a place. -/
def Row.fixes (row : Row) (place : Fin 4) : Bool :=
  row.pattern.toList[place.val]?.any fun p => !(['?', 'X', 'Y', 'N'].contains p)

/-- A field has the same value in two words exactly if they have the same digits in its places. -/
theorem field_eq_iff_digits (w w' : Word) (f : Field) :
    w.field f = w'.field f ↔
      ∀ place ∈ f.places, (Digits.ofWord w).digit place = (Digits.ofWord w').digit place := by
  rw [← Digits.field_eq_iff]
  cases f <;> simp [Digits.field, Field.places, Digits.digit]

/-- The digits that the operands of an instruction show are not free. -/
theorem not_free_of_shown (op : Opcode) :
    ∀ f ∈ op.rule.shown, ∀ place ∈ f.places, (row op).leavesFree place = false := by
  cases op <;> decide

/-- A digit that is not free is given by the pattern or shown by the operands. -/
theorem fixed_or_shown (op : Opcode) :
    ∀ place, (row op).leavesFree place = false →
      (row op).fixes place = true ∨ ∃ f ∈ op.rule.shown, place ∈ f.places := by
  cases op <;> decide

/-- Where a pattern has a digit, so have the words that fit it. -/
theorem digit_eq_of_fits {pattern digits : List Char} (h : fits pattern digits = true) {k : Nat}
    {p d : Char} (hp : pattern[k]? = some p) (hd : digits[k]? = some d)
    (hdigit : ['?', 'X', 'Y', 'N'].contains p = false) : d = p := by
  induction pattern generalizing digits k with
  | nil => cases hp
  | cons q pattern ih =>
    cases digits with
    | nil => cases hd
    | cons e digits =>
      rw [fits, Bool.and_eq_true, Bool.or_eq_true] at h
      cases k with
      | zero =>
        cases hp
        cases hd
        rcases h.1 with hmark | hequal
        · rw [hdigit] at hmark
          cases hmark
        · exact (beq_iff_eq.mp hequal).symm
      | succ k => exact ih h.2 hp hd

theorem getElem?_digits (d : Digits) (place : Fin 4) :
    d.toList[place.val]? = some (d.digit place) := by
  match place with
  | 0 | 1 | 2 | 3 => rfl

/-- A digit that the pattern gives is the same in all words that a row describes. -/
theorem digit_eq_of_fixes {row : Row} {d d' : Digits} (h : row.describes d = true)
    (h' : row.describes d' = true) {place : Fin 4} (hfixes : row.fixes place = true) :
    d.digit place = d'.digit place := by
  rw [Row.describes, Bool.and_eq_true] at h h'
  obtain ⟨p, hp, hdigit⟩ := (Option.any_eq_true _ _).mp hfixes
  rw [Bool.not_eq_true'] at hdigit
  rw [digit_eq_of_fits h.1 hp (getElem?_digits d place) hdigit,
    digit_eq_of_fits h'.1 hp (getElem?_digits d' place) hdigit]

/-- Words of one instruction have the same values in the fields it shows exactly if they have the same
digits wherever its row leaves none free. -/
theorem shown_eq_iff_digits {op : Opcode} {w w' : Word} (h : Opcode.ofWord? w = some op)
    (h' : Opcode.ofWord? w' = some op) :
    (∀ f ∈ op.rule.shown, w.field f = w'.field f) ↔
      ∀ place, (row op).leavesFree place = false →
        (Digits.ofWord w).digit place = (Digits.ofWord w').digit place := by
  constructor
  · intro hfields place hplace
    rcases fixed_or_shown op place hplace with hfixes | ⟨f, hf, hmem⟩
    · exact digit_eq_of_fixes (describes_of_ofWord? h) (describes_of_ofWord? h') hfixes
    · exact (field_eq_iff_digits w w' f).mp (hfields f hf) place hmem
  · intro hdigits f hf
    rw [field_eq_iff_digits]
    exact fun place hmem => hdigits place (not_free_of_shown op f hf place hmem)

/-- Words are alike exactly if the manual describes both by the same row, or neither, and they have
the same digits wherever that row leaves none free. -/
theorem alike_iff_digits (w w' : Word) :
    Word.Alike w w' ↔
      find? (Digits.ofWord w) = find? (Digits.ofWord w') ∧
        ∀ found, find? (Digits.ofWord w) = some found →
          ∀ place, found.leavesFree place = false →
            (Digits.ofWord w).digit place = (Digits.ofWord w').digit place := by
  rw [find?_ofWord, find?_ofWord, Word.Alike]
  cases h : Opcode.ofWord? w with
  | none =>
    cases h' : Opcode.ofWord? w' with
    | none => simp
    | some op' => simp
  | some op =>
    cases h' : Opcode.ofWord? w' with
    | none => simp
    | some op' =>
      constructor
      · rintro (⟨hnone, _⟩ | ⟨_, ⟨⟩, ⟨⟩, hfields⟩)
        · cases hnone
        · refine ⟨rfl, ?_⟩
          rintro found ⟨⟩
          exact (shown_eq_iff_digits h h').mp hfields
      · rintro ⟨hrow, hdigits⟩
        -- rows have different mnemonics, so that one row is one instruction
        have hmnemonic := congrArg Row.mnemonic (Option.some.inj hrow)
        rw [← mnemonic_eq, ← mnemonic_eq] at hmnemonic
        cases Opcode.eq_of_mnemonic_eq hmnemonic
        exact Or.inr ⟨op, rfl, rfl, (shown_eq_iff_digits h h').mpr (hdigits _ rfl)⟩

/-- **The text of an instruction tells all but the free digits.** Two integers have the same text
exactly if neither has a rule, or both have the same rule and the same values in the fields that its
operands show. The comment shows no other field, so the text without it tells as much. And it tells
the word but for the digits that the row of the manual leaves free. -/
theorem text_tells_all_but_free (word word' : Int) :
    let w := Word.ofInt word
    let w' := Word.ofInt word'
    (Segment.joined w.instruction = Segment.joined w'.instruction ↔
      (w.rule? = none ∧ w'.rule? = none) ∨
        ∃ rule, w.rule? = some rule ∧ w'.rule? = some rule ∧
          ∀ f ∈ rule.shown, w.field f = w'.field f) ∧
    (∀ rule, w.rule? = some rule → ∀ f ∈ rule.comment.fields, f ∈ rule.shown) ∧
    (Segment.joined w.statement = Segment.joined w'.statement ↔
      Segment.joined w.instruction = Segment.joined w'.instruction) ∧
    (Segment.joined w.statement = Segment.joined w'.statement ↔
      find? (Digits.ofInt word) = find? (Digits.ofInt word') ∧
        ∀ found, find? (Digits.ofInt word) = some found →
          ∀ place, found.leavesFree place = false →
            (Digits.ofInt word).digit place = (Digits.ofInt word').digit place) := by
  intro w w'
  refine ⟨?_, ?_, ?_, ?_⟩
  · rw [Word.text_eq_iff_alike, Word.alike_iff_rule]
  · intro rule hrule
    obtain ⟨op, _, rfl⟩ := Option.map_eq_some_iff.mp hrule
    exact op.comment_shown
  · rw [Word.statement_eq_iff_alike, Word.text_eq_iff_alike]
  · rw [Word.statement_eq_iff_alike, alike_iff_digits]
    rfl

end Manual

end Chip8
