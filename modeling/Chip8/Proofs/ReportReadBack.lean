import Chip8.Proofs.ReportRows

/-!
# Reading a watch report

Every line of a report but the blank ones is a name, a value and a remark with blanks between them,
and the remark of most shows the value again in another radix. `Watch.words` cuts a line at its
blanks. The second word and the third are then read as numbers behind their marks, in the radix the
mark stands for. Values can be negative and as long as they like, so no number is found by its
column.

`Watch.says_entry` is the reading of a single line. What a report as a whole says of a snapshot is
`Watch.Reports`, and it leaves no choice of the snapshot (`Watch.Reports.unique`).

The main statement is `Watch.report_loses_nothing`. `Watch.lines_beyond_digits` is a timer that is too
long to be shown.
-/

namespace Chip8

theorem Snapshot.eq_iff (left right : Snapshot) :
    left = right ↔
      left.programCounter = right.programCounter ∧ left.indexRegister = right.indexRegister ∧
        left.registers = right.registers ∧ left.delayTimer = right.delayTimer ∧
        left.soundTimer = right.soundTimer := by
  cases left
  cases right
  rw [Snapshot.mk.injEq]

namespace Watch

/-! ## The reader -/

/-- The words of a line. -/
def words (line : String) : List (List Char) :=
  (line.toList.splitOn ' ').filter fun word => !word.isEmpty

/-- The number that a word denotes behind a mark. -/
def numberBehind? (mark : String) (r : Radix) (word : List Char) : Option Int :=
  if mark.toList.isPrefixOf word then Numeral.read? r (word.drop mark.toList.length) else none

/-- The value that a line shows: the number behind its name. -/
def value? (mark : String) (r : Radix) (line : String) : Option Int :=
  (words line)[1]?.bind (numberBehind? mark r)

/-- The value that a line shows again, in its remark. -/
def remark? (mark : String) (r : Radix) (line : String) : Option Int :=
  (words line)[2]?.bind (numberBehind? mark r)

/-- A line says the same of a timer in decimal and in hexadecimal digits. -/
def SaysTimer (line : Option String) (value : Int) : Prop :=
  line.bind (value? "" .decimal) = some value ∧ line.bind (remark? "//0x" .hexadecimal) = some value

/-- What lines say of a snapshot. Each register is said twice by its own line, and of the index
register the low byte is. -/
structure Reports (texts : List String) (snapshot : Snapshot) : Prop where
  length : texts.length = 22
  counter : texts[0]?.bind (value? "0x" .hexadecimal) = some snapshot.programCounter
  index : texts[1]?.bind (value? "0x" .hexadecimal) = some snapshot.indexRegister
  indexLow : texts[1]?.bind (remark? "//b" .binary) = some (snapshot.indexRegister % 256)
  register : ∀ i (h : i < snapshot.registers.length),
    texts[3 + i]?.bind (value? "0x" .hexadecimal) = some snapshot.registers[i] ∧
      texts[3 + i]?.bind (remark? "//b" .binary) = some snapshot.registers[i]
  delay : SaysTimer texts[20]? snapshot.delayTimer
  sound : SaysTimer texts[21]? snapshot.soundTimer

/-! ## Words -/

theorem words_append (front back : String) :
    words (front ++ (" " ++ back)) = words front ++ words back := by
  have hchars : (front ++ (" " ++ back)).toList = front.toList ++ ' ' :: back.toList := by
    simp
  unfold words
  rw [hchars, List.splitOn_append_cons_self, List.filter_append]

theorem words_of_not_mem {text : String} (hblank : ' ' ∉ text.toList) (hne : text.toList ≠ []) :
    words text = [text.toList] := by
  unfold words
  rw [List.splitOn_eq_singleton hblank, List.filter_cons, List.isEmpty_eq_false_iff.mpr hne]
  rfl

/-- A number behind a mark. -/
def marked (mark : String) (r : Radix) (width : Nat) (n : Int) : String :=
  mark ++ Numeral.render r width n

theorem toList_marked (mark : String) (r : Radix) (width : Nat) (n : Int) :
    (marked mark r width n).toList = mark.toList ++ Numeral.chars r width n := by
  rw [marked, Numeral.render, String.toList_append, String.toList_ofList]

/-- A number and its mark are one word. -/
theorem words_marked {mark : String} (hmark : ' ' ∉ mark.toList) (r : Radix) (width : Nat)
    (n : Int) : words (marked mark r width n) = [(marked mark r width n).toList] := by
  have hdigit : r.digit? ' ' = none := by
    cases r <;> decide
  have hchars : Numeral.chars r width n ≠ [] := by
    intro hnil
    -- nothing is read from no characters
    have hread := Numeral.read?_chars r width n
    rw [hnil] at hread
    cases hread
  apply words_of_not_mem
  · rw [toList_marked, List.mem_append, not_or]
    exact ⟨hmark, Numeral.not_mem_chars (by decide) hdigit width n⟩
  · rw [toList_marked]
    exact List.append_ne_nil_of_right_ne_nil _ hchars

theorem numberBehind?_marked (mark : String) (r : Radix) (width : Nat) (n : Int) :
    numberBehind? mark r (marked mark r width n).toList = some n := by
  have hmark : mark.toList.isPrefixOf (mark.toList ++ Numeral.chars r width n) = true :=
    List.isPrefixOf_iff_prefix.mpr (List.prefix_append _ _)
  rw [toList_marked, numberBehind?, if_pos hmark, List.drop_left]
  exact Numeral.read?_chars r width n

/-! ## Lines -/

theorem words_entry (name value remark : String) :
    words (Segment.joined (entry name (" " ++ value) (" " ++ remark))) =
      words name ++ (words value ++ words remark) := by
  rw [entry, Segment.joined_cons, Segment.joined_cons, Segment.joined_cons, Segment.joined_nil,
    String.append_empty, String.append_assoc, words_append, words_append]

/-- A line whose name is one word shows its value behind it, whatever the remark is. -/
theorem value?_entry {name remark mark : String} {word : List Char} (hname : words name = [word])
    (hmark : ' ' ∉ mark.toList) (r : Radix) (width : Nat) (value : Int) :
    value? mark r (Segment.joined (entry name (" " ++ marked mark r width value) (" " ++ remark))) =
      some value := by
  unfold value?
  rw [words_entry, hname, words_marked hmark]
  exact numberBehind?_marked mark r width value

/-- A line with a number in its remark shows both. -/
theorem says_entry {name mark mark' : String} {word : List Char} (hname : words name = [word])
    (hmark : ' ' ∉ mark.toList) (hmark' : ' ' ∉ mark'.toList) (r r' : Radix) (width width' : Nat)
    (value value' : Int) :
    value? mark r (Segment.joined (entry name (" " ++ marked mark r width value)
        (" " ++ marked mark' r' width' value'))) = some value ∧
      remark? mark' r' (Segment.joined (entry name (" " ++ marked mark r width value)
        (" " ++ marked mark' r' width' value'))) = some value' := by
  refine ⟨value?_entry hname hmark r width value, ?_⟩
  unfold remark?
  rw [words_entry, hname, words_marked hmark, words_marked hmark']
  exact numberBehind?_marked mark' r' width' value'

theorem bits_eq (value : Int) : bits value = " " ++ marked "//b" .binary 8 value := by
  rw [bits, marked, ← String.append_assoc]
  rfl

theorem words_registerName (number : Nat) :
    words ("  V" ++ Numeral.render .hexadecimal 0 number) =
      [(marked "V" .hexadecimal 0 number).toList] := by
  have hname : "  V" ++ Numeral.render .hexadecimal 0 number =
      "" ++ (" " ++ ("" ++ (" " ++ marked "V" .hexadecimal 0 number))) := by
    apply String.toList_inj.mp
    simp [marked]
  rw [hname, words_append, words_append, words_marked (by decide)]
  rfl

theorem hex_eq (width : Nat) (value : Int) :
    Numeral.hex width value = marked "0x" .hexadecimal width value := rfl

theorem says_counterRow (value : Int) :
    value? "0x" .hexadecimal (Segment.joined (counterRow value)) = some value := by
  have hname : words " PC" = ["PC".toList] := by decide
  have hremark : " //Program Counter" = " " ++ "//Program Counter" := by decide
  rw [counterRow, hex_eq, hremark]
  exact value?_entry hname (by decide) _ _ _

theorem says_indexRow (value : Int) :
    value? "0x" .hexadecimal (Segment.joined (indexRow value)) = some value ∧
      remark? "//b" .binary (Segment.joined (indexRow value)) = some (value % 256) := by
  have hname : words " I" = ["I".toList] := by decide
  rw [indexRow, hex_eq, bits_eq]
  exact says_entry hname (by decide) (by decide) _ _ _ _ _ _

theorem says_registerRow (number : Nat) (value : Int) :
    value? "0x" .hexadecimal (Segment.joined (registerRow number value)) = some value ∧
      remark? "//b" .binary (Segment.joined (registerRow number value)) = some value := by
  have hname := words_registerName number
  rw [registerRow, hex_eq, bits_eq]
  exact says_entry hname (by decide) (by decide) _ _ _ _ _ _

theorem says_fullTimerRow {name : String} {word : List Char} (hname : words name = [word])
    (value : Int) : SaysTimer (some (Segment.joined (fullTimerRow name value))) value := by
  have hdecimal : Numeral.decimal value = marked "" .decimal 0 value := by
    rw [marked, String.empty_append, Numeral.decimal]
  have hhex : " //" ++ Numeral.hex 2 value = " " ++ marked "//0x" .hexadecimal 2 value := by
    apply String.toList_inj.mp
    simp [marked, Numeral.hex]
  rw [fullTimerRow, hdecimal, hhex]
  exact says_entry hname (by decide) (by decide) _ _ _ _ _ _

/-! ## Reports -/

/-- The lines of a report say what the snapshot holds. -/
theorem reports_fullRows {snapshot : Snapshot} (hcount : snapshot.registers.length = registerCount) :
    Reports ((fullRows snapshot).map Segment.joined) snapshot := by
  have hcounter : ((fullRows snapshot).map Segment.joined)[0]? =
      some (Segment.joined (counterRow snapshot.programCounter)) := rfl
  have hindex : ((fullRows snapshot).map Segment.joined)[1]? =
      some (Segment.joined (indexRow snapshot.indexRegister)) := rfl
  have hregister : ∀ i (h : i < snapshot.registers.length),
      ((fullRows snapshot).map Segment.joined)[3 + i]? =
        some (Segment.joined (registerRow i snapshot.registers[i])) := by
    intro i h
    rw [List.getElem?_map, getElem?_fullRows_register snapshot h]
    rfl
  constructor
  case length =>
    rw [List.length_map, length_fullRows, hcount]
    rfl
  case counter =>
    rw [hcounter, Option.bind_some]
    exact says_counterRow snapshot.programCounter
  case index =>
    rw [hindex, Option.bind_some]
    exact (says_indexRow snapshot.indexRegister).1
  case indexLow =>
    rw [hindex, Option.bind_some]
    exact (says_indexRow snapshot.indexRegister).2
  case register =>
    intro i h
    rw [hregister i h, Option.bind_some, Option.bind_some]
    exact says_registerRow i snapshot.registers[i]
  case delay =>
    rw [List.getElem?_map, getElem?_fullRows_behind hcount 1]
    exact says_fullTimerRow (show words " DelayTimer" = ["DelayTimer".toList] by decide) _
  case sound =>
    rw [List.getElem?_map, getElem?_fullRows_behind hcount 2]
    exact says_fullTimerRow (show words " SoundTimer" = ["SoundTimer".toList] by decide) _

/-- Lines say one thing only. -/
theorem Reports.unique {texts : List String} {left right : Snapshot} (hleft : Reports texts left)
    (hright : Reports texts right) (hcount : left.registers.length = right.registers.length) :
    left = right := by
  have hregisters : left.registers = right.registers := by
    refine List.ext_getElem hcount fun i h h' => ?_
    exact Option.some.inj ((hleft.register i h).1.symm.trans (hright.register i h').1)
  rw [Snapshot.eq_iff]
  exact ⟨Option.some.inj (hleft.counter.symm.trans hright.counter),
    Option.some.inj (hleft.index.symm.trans hright.index), hregisters,
    Option.some.inj (hleft.delay.1.symm.trans hright.delay.1),
    Option.some.inj (hleft.sound.1.symm.trans hright.sound.1)⟩

/-- **A report loses nothing and never contradicts itself.** For snapshots with sixteen registers of
any values at all and timers that can be shown, the lines of a report say what the snapshot holds:
each register is the number of its own line, in hexadecimal and in binary digits alike, each timer in
decimal and in hexadecimal ones, and the binary digits of the index register are its value modulo
256. No snapshot with other values has the same lines. A timer that cannot be shown leaves no lines at
all. -/
theorem report_loses_nothing [Capacity] :
    (∀ snapshot : Snapshot, snapshot.registers.length = registerCount → TimersShown snapshot →
      ∃ texts, lines snapshot = .ok texts ∧ Reports texts snapshot) ∧
    (∀ snapshot : Snapshot, snapshot.registers.length = registerCount → ¬TimersShown snapshot →
      lines snapshot = .error .tooLongToShow) ∧
    ∀ left right : Snapshot, left.registers.length = registerCount →
      right.registers.length = registerCount → TimersShown left →
        (lines left = lines right ↔
          left.programCounter = right.programCounter ∧
          left.indexRegister = right.indexRegister ∧ left.registers = right.registers ∧
          left.delayTimer = right.delayTimer ∧ left.soundTimer = right.soundTimer) := by
  refine ⟨fun snapshot hcount hshown => ⟨_, lines_eq hcount hshown, reports_fullRows hcount⟩,
    fun snapshot hcount hshown => lines_of_not_timersShown hcount hshown, ?_⟩
  intro left right hleft hright hshown
  rw [← Snapshot.eq_iff]
  constructor
  · intro hlines
    rw [lines_eq hleft hshown] at hlines
    by_cases hshown' : TimersShown right
    · rw [lines_eq hright hshown', Except.ok.injEq] at hlines
      have hsame := reports_fullRows hright
      rw [← hlines] at hsame
      exact (reports_fullRows hleft).unique hsame (hleft.trans hright.symm)
    · rw [lines_of_not_timersShown hright hshown'] at hlines
      cases hlines
  · intro heq
    rw [heq]

/-- Negative and oversized values, and two index registers with the same low byte. -/
theorem report_loses_nothing_low_byte :
    letI : Capacity := .tebibyte
    let left : Snapshot := ⟨-2, 0x1234, List.replicate 15 0 ++ [-256], -5, 1000⟩
    let right : Snapshot := ⟨-2, 0x5634, List.replicate 15 0 ++ [-256], -5, 1000⟩
    left.registers.length = registerCount ∧ right.registers.length = registerCount ∧
      TimersShown left ∧ lines left ≠ lines right ∧
      ∃ texts, lines left = .ok texts ∧ Reports texts left := by
  let : Capacity := .tebibyte
  intro left right
  have hshown : TimersShown left := by decide
  obtain ⟨hlines, _, hequal⟩ := report_loses_nothing
  refine ⟨rfl, rfl, hshown, ?_, hlines left rfl hshown⟩
  intro hsame
  obtain ⟨_, hindex, _⟩ := (hequal left right rfl rfl hshown).mp hsame
  exact absurd hindex (by decide)

/-- A timer of 4301 digits, of which there are no lines, whatever memory there is. -/
theorem lines_beyond_digits :
    ¬∃ (_ : Capacity) (texts : List String),
      lines ⟨0x200, 0, List.replicate registerCount 0, Int.pow 10 4300, 0⟩ = .ok texts := by
  rintro ⟨_, texts, h⟩
  have hpower : ¬Capacity.IsShown (Int.pow 10 4300) := Capacity.not_isShown_pow
  have hlong : ¬TimersShown ⟨0x200, 0, List.replicate registerCount 0, Int.pow 10 4300, 0⟩ :=
    fun hshown => hpower hshown.delay
  rw [lines_of_not_timersShown rfl hlong] at h
  cases h

end Watch

end Chip8
