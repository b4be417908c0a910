import Chip8.Machine.Watch
import Chip8.Proofs.PlainRows
import Chip8.Proofs.ReadBack

/-!
# The rows of a watch report

A report is made row by row, in one stream, and a row is filled up by what it lacks of the width.
The plainest way to get the padded report would be to take the unpadded one, line by line, and to
fill each line by itself. This file shows that the two agree, for the blank rows as well, and that
the blanks can be taken out of the stream again.

No row has a segment under the tag of line ends and blanks (`Watch.tag_ne_plain`). So cutting the
stream at its `newline`s gives the rows as they were made, and what is filtered out of it as padding
was padding.

As long as the values are those of the machine, no row needs more than the twenty-eight columns of
the program counter's (`Watch.length_row_le`).

The main statement is `Watch.render_fills_lines`. `Watch.report_beyond_index` is a width at which no
report is made.
-/

namespace Chip8

/-! ## Rows without control characters -/

namespace Watch

theorem clean_entry {name value remark : String} (hname : Text.clean name = true)
    (hvalue : Text.clean value = true) (hremark : Text.clean remark = true) :
    ∀ segment ∈ entry name value remark, Text.clean segment.text = true := by
  intro segment hsegment
  simp only [entry, List.mem_cons, List.not_mem_nil, or_false] at hsegment
  rcases hsegment with rfl | rfl | rfl
  · exact hname
  · exact hvalue
  · exact hremark

theorem clean_bits (value : Int) : Text.clean (bits value) = true :=
  Text.clean_append (by decide) (Text.clean_numeral _ _ _)

theorem clean_spaced_hex (width : Nat) (value : Int) :
    Text.clean (" " ++ Numeral.hex width value) = true :=
  Text.clean_append (by decide) (Text.clean_hex _ _)

theorem clean_fullTimerRow {name : String} (hname : Text.clean name = true) (value : Int) :
    ∀ segment ∈ fullTimerRow name value, Text.clean segment.text = true :=
  clean_entry hname (Text.clean_append (by decide) (Text.clean_numeral _ _ _))
    (Text.clean_append (by decide) (Text.clean_hex _ _))

/-- The rows of a report have no control character, whatever the snapshot holds. -/
theorem clean_rows (snapshot : Snapshot) :
    ∀ row ∈ fullRows snapshot, ∀ segment ∈ row, Text.clean segment.text = true := by
  apply forall_mem_fullRows
  · exact clean_entry (by decide) (clean_spaced_hex _ _) (by decide)
  · exact clean_entry (by decide) (clean_spaced_hex _ _) (clean_bits _)
  · intro number _
    exact clean_entry (Text.clean_append (by decide) (Text.clean_numeral _ _ _))
      (clean_spaced_hex _ _) (clean_bits _)
  · exact clean_fullTimerRow (by decide) _
  · exact clean_fullTimerRow (by decide) _
  · exact fun _ hsegment => absurd hsegment List.not_mem_nil

end Watch

/-! ## Streams with and without blanks -/

/-- Blanks that fill a row: plain text with nothing else in it. -/
def Segment.isPadding (segment : Segment) : Bool :=
  segment.tag = .plain && segment.text.toList.all (· = ' ')

namespace Layout

theorem finish_none (row : List Segment) : finish none row = row ++ [Segment.newline] := by
  have hnone : padding none row = [] := if_pos rfl
  rw [finish, hnone, List.append_nil]

/-- Without a width rows are only ended. -/
theorem stream_none (rows : List (List Segment)) : stream none rows = Segment.terminated rows :=
  congrArg (List.flatMap · rows) (funext finish_none)

/-- Cutting rows that were only ended gives them back. -/
theorem rows_stream {rows : List (List Segment)} (h : ∀ row ∈ rows, Segment.newline ∉ row) :
    Segment.rows (stream none rows) = rows := by
  rw [stream_none]
  exact Segment.rows_terminated h

theorem filter_padding (width : Option Int) (row : List Segment) :
    (padding width row).filter (fun segment => !segment.isPadding) = [] := by
  unfold padding
  split
  next => rfl
  next =>
    have hblanks : Segment.isPadding ⟨Text.blanks (shortfall width row), .plain⟩ = true := by
      simp [Segment.isPadding, Text.blanks]
    rw [List.filter_cons, hblanks]
    rfl

/-- Without its padding a stream is the stream of the rows as they are, if no row has any blanks of
that kind itself. -/
theorem filter_stream {rows : List (List Segment)}
    (h : ∀ row ∈ rows, ∀ segment ∈ row, segment.isPadding = false) (width : Option Int) :
    (stream width rows).filter (fun segment => !segment.isPadding) = stream none rows := by
  induction rows with
  | nil => rfl
  | cons row rest ih =>
    rw [List.forall_mem_cons] at h
    have hrow : row.filter (fun segment => !segment.isPadding) = row := by
      rw [List.filter_eq_self]
      intro segment hsegment
      rw [h.1 segment hsegment]
      rfl
    have hend : [Segment.newline].filter (fun segment => !segment.isPadding) =
        [Segment.newline] := by
      decide
    have hrest := ih h.2
    unfold stream at hrest ⊢
    rw [List.flatMap_cons, List.flatMap_cons, List.filter_append, hrest, finish_none, finish,
      List.filter_append, List.filter_append, hrow, filter_padding, hend, List.append_nil]

end Layout

/-! ## Reports row by row -/

namespace Watch

theorem tag_ne_plain (snapshot : Snapshot) :
    ∀ row ∈ fullRows snapshot, ∀ segment ∈ row, segment.tag ≠ .plain := by
  have hentry : ∀ name value remark, ∀ segment ∈ entry name value remark, segment.tag ≠ .plain := by
    intro name value remark segment hsegment
    simp only [entry, List.mem_cons, List.not_mem_nil, or_false] at hsegment
    rcases hsegment with rfl | rfl | rfl <;> exact nofun
  apply forall_mem_fullRows
  · exact hentry _ _ _
  · exact hentry _ _ _
  · exact fun _ _ => hentry _ _ _
  · exact hentry _ _ _
  · exact hentry _ _ _
  · exact fun _ hsegment => absurd hsegment List.not_mem_nil

/-- Behind the first three rows stand those of the registers, in order. -/
theorem getElem?_fullRows_register (snapshot : Snapshot) {number : Nat}
    (h : number < snapshot.registers.length) :
    (fullRows snapshot)[3 + number]? = some (registerRow number snapshot.registers[number]) := by
  rw [fullRows, upperRows, List.append_assoc, List.append_assoc,
    List.getElem?_append_right (Nat.le_add_right 3 number), List.getElem?_append_left]
  · simp [h]
  · simpa using h

/-- Behind the rows of the registers stand a blank one and the timers. -/
theorem getElem?_fullRows_behind {snapshot : Snapshot}
    (hcount : snapshot.registers.length = registerCount) (number : Nat) :
    (fullRows snapshot)[19 + number]? =
      [[], fullTimerRow " DelayTimer" snapshot.delayTimer,
        fullTimerRow " SoundTimer" snapshot.soundTimer][number]? := by
  have hfront : ([counterRow snapshot.programCounter, indexRow snapshot.indexRegister, []] ++
      snapshot.registers.mapIdx registerRow).length = 19 := by
    rw [List.length_append, List.length_mapIdx, hcount]
    rfl
  rw [fullRows, upperRows, List.append_assoc, List.getElem?_append_right (by omega), hfront,
    Nat.add_sub_cancel_left]
  rfl

/-- The rows that are made: all of them, or those before the first timer that cannot be shown. -/
def madeRows (snapshot : Snapshot) : List (List Segment) :=
  if Capacity.IsShown snapshot.delayTimer then
    if Capacity.IsShown snapshot.soundTimer then fullRows snapshot
    else upperRows snapshot ++ [fullTimerRow " DelayTimer" snapshot.delayTimer]
  else upperRows snapshot

theorem madeRows_of_timersShown {snapshot : Snapshot} (h : TimersShown snapshot) :
    madeRows snapshot = fullRows snapshot := by
  rw [madeRows, if_pos h.delay, if_pos h.sound]

/-- What is made of a report: if there is room for its rows up to the first timer that cannot be
shown, all of it or the fault of that timer. -/
theorem make?_rows [Capacity] (snapshot : Snapshot) (width : Option Int) :
    Layout.make? width (rows snapshot) = (Layout.checkRoom width (madeRows snapshot) >>= fun _ =>
      if TimersShown snapshot then .ok (fullRows snapshot) else .error .tooLongToShow) := by
  by_cases hshown : TimersShown snapshot
  · rw [rows_of_timersShown hshown, Layout.make?_map_ok, madeRows_of_timersShown hshown,
      if_pos hshown]
    cases Layout.checkRoom width (fullRows snapshot) <;> rfl
  · rw [if_neg hshown, madeRows]
    by_cases hdelay : Capacity.IsShown snapshot.delayTimer
    · have hsound : ¬Capacity.IsShown snapshot.soundTimer := fun h => hshown ⟨hdelay, h⟩
      rw [if_pos hdelay, if_neg hsound, ← Layout.make?_of_failure _ _ _ [], rows,
        timerRow_of_isShown hdelay, timerRow_of_not_isShown hsound, List.map_append,
        List.append_assoc]
      rfl
    · rw [if_neg hdelay, ← Layout.make?_of_failure _ _ _ [timerRow " SoundTimer" _], rows,
        timerRow_of_not_isShown hdelay]

/-- Rows that are all made are those of the full report. -/
theorem eq_fullRows_of_make? [Capacity] {snapshot : Snapshot} {width : Option Int}
    {made : List (List Segment)} (h : Layout.make? width (rows snapshot) = .ok made) :
    made = fullRows snapshot := by
  rw [make?_rows] at h
  obtain ⟨_, _, h⟩ := Fault.bind_eq_ok_iff.mp h
  split at h
  next => exact (Except.ok.inj h).symm
  next => cases h

/-- There is room for the blanks of every row that is made. -/
def HasRoom [Capacity] (snapshot : Snapshot) (width : Option Int) : Prop :=
  ∀ row ∈ madeRows snapshot, Layout.shortfall width row < Capacity.memoryLimit

theorem hasRoom_of_lt [Capacity] {width : Option Int}
    (h : ∀ columns, width = some columns → columns < Capacity.memoryLimit) (snapshot : Snapshot) :
    HasRoom snapshot width :=
  fun row _ => Layout.shortfall_lt h row

/-- There is always room where no width is asked for. -/
theorem hasRoom_none [Capacity] (snapshot : Snapshot) : HasRoom snapshot none := by
  apply hasRoom_of_lt
  intro columns hcolumns
  cases hcolumns

section

variable {snapshot : Snapshot} (hcount : snapshot.registers.length = registerCount)

include hcount

theorem segments_eq [Capacity] (hshown : TimersShown snapshot) {width : Option Int}
    (hroom : HasRoom snapshot width) :
    segments snapshot width = .ok (Layout.stream width (fullRows snapshot)) := by
  rw [segments, if_pos hcount, make?_rows, (Layout.checkRoom_eq_ok_iff _ _).mpr hroom,
    if_pos hshown]
  rfl

/-- A timer that cannot be shown is reported as soon as its row is to be made. -/
theorem segments_of_not_timersShown [Capacity] (hshown : ¬TimersShown snapshot) {width : Option Int}
    (hroom : HasRoom snapshot width) : segments snapshot width = .error .tooLongToShow := by
  rw [segments, if_pos hcount, make?_rows, (Layout.checkRoom_eq_ok_iff _ _).mpr hroom,
    if_neg hshown]
  rfl

/-- Without room for its blanks a report is refused as too long a text. -/
theorem segments_of_not_hasRoom [Capacity] {width : Option Int} (hroom : ¬HasRoom snapshot width) :
    ∃ fault : Fault, fault.IsLength ∧ segments snapshot width = .error fault := by
  obtain ⟨fault, hlength, hfault⟩ := Layout.checkRoom_eq_error hroom
  refine ⟨fault, hlength, ?_⟩
  rw [segments, if_pos hcount, make?_rows, hfault]
  rfl

omit hcount in
/-- A report that is refused has no text either. -/
theorem render_eq_error [Capacity] {width : Option Int} {fault : Fault}
    (h : segments snapshot width = .error fault) : render snapshot width = .error fault := by
  rw [render, h]
  rfl

/-- The lines of a report are the texts of its rows. -/
theorem lines_eq [Capacity] (hshown : TimersShown snapshot) :
    lines snapshot = .ok ((fullRows snapshot).map Segment.joined) := by
  have hbare : ∀ row ∈ fullRows snapshot, Segment.newline ∉ row := by
    intro row hrow hmem
    exact tag_ne_plain snapshot row hrow _ hmem rfl
  rw [lines, segments_eq hcount hshown (hasRoom_none snapshot)]
  show Except.ok ((Segment.rows _).map Segment.joined) = _
  rw [Layout.rows_stream hbare]

/-- Where a timer cannot be shown there are no lines. -/
theorem lines_of_not_timersShown [Capacity] (hshown : ¬TimersShown snapshot) :
    lines snapshot = .error .tooLongToShow := by
  rw [lines, segments_of_not_timersShown hcount hshown (hasRoom_none snapshot)]
  rfl

/-- The text of a report is made of its lines, each filled by itself. -/
theorem render_eq [Capacity] (hshown : TimersShown snapshot) {width : Option Int}
    (hroom : HasRoom snapshot width) :
    render snapshot width =
      .ok (Segment.ended (((fullRows snapshot).map Segment.joined).map (Text.filled width))) := by
  have htexts : (fullRows snapshot).map
      (fun row => Segment.joined row ++ Text.blanks (Layout.shortfall width row)) =
        ((fullRows snapshot).map Segment.joined).map (Text.filled width) := by
    rw [List.map_map]
    exact List.map_congr_left fun row _ => Layout.append_blanks_eq width row
  rw [render, segments_eq hcount hshown hroom]
  show Except.ok _ = Except.ok _
  rw [Layout.joined_stream, htexts]

end

end Watch

/-! ## The width of a report -/

/-- The values are such as the machine holds: addresses of two bytes, and bytes. -/
structure Snapshot.FitsMachine (snapshot : Snapshot) : Prop where
  programCounter : 0 ≤ snapshot.programCounter ∧ snapshot.programCounter < 0x10000
  indexRegister : 0 ≤ snapshot.indexRegister ∧ snapshot.indexRegister < 0x10000
  registers : ∀ value ∈ snapshot.registers, 0 ≤ value ∧ value < 256
  delayTimer : 0 ≤ snapshot.delayTimer ∧ snapshot.delayTimer < 256
  soundTimer : 0 ≤ snapshot.soundTimer ∧ snapshot.soundTimer < 256

namespace Watch

theorem length_entry (name value remark : String) :
    (Segment.joined (entry name value remark)).length =
      name.length + (value.length + remark.length) := by
  rw [entry, Segment.joined_cons, Segment.joined_cons, Segment.joined_cons, Segment.joined_nil,
    String.append_empty, String.length_append, String.length_append]

theorem length_render_le {r : Radix} {width columns : Nat} {n : Int} (h0 : 0 ≤ n)
    (h : n.natAbs < Nat.pow r.base columns) (hwidth : width ≤ columns) (hcolumns : 0 < columns) :
    (Numeral.render r width n).length ≤ columns := by
  rw [Numeral.render, String.length_ofList]
  exact Numeral.length_chars_le h0 h hwidth hcolumns

/-- A byte is written in two hexadecimal, eight binary and three decimal digits at most. -/
theorem length_byte_le {value : Int} (h : 0 ≤ value ∧ value < 256) :
    (Numeral.hex 2 value).length ≤ 4 ∧ (bits value).length ≤ 12 ∧
      (Numeral.decimal value).length ≤ 3 := by
  have hhex : (Numeral.render .hexadecimal 2 value).length ≤ 2 :=
    length_render_le h.1 (show value.natAbs < 256 by omega) (by decide) (by decide)
  have hbits : (Numeral.render .binary 8 value).length ≤ 8 :=
    length_render_le h.1 (show value.natAbs < 256 by omega) (by decide) (by decide)
  have hdecimal : (Numeral.render .decimal 0 value).length ≤ 3 :=
    length_render_le h.1 (show value.natAbs < 1000 by omega) (by decide) (by decide)
  refine ⟨?_, ?_, hdecimal⟩
  · rw [Numeral.hex, String.length_append]
    show 2 + _ ≤ 4
    omega
  · rw [bits, String.length_append]
    show 4 + _ ≤ 12
    omega

theorem length_address_le {value : Int} (h : 0 ≤ value ∧ value < 0x10000) :
    (Numeral.hex 4 value).length ≤ 6 := by
  have hhex : (Numeral.render .hexadecimal 4 value).length ≤ 4 :=
    length_render_le h.1 (show value.natAbs < 0x10000 by omega) (by decide) (by decide)
  rw [Numeral.hex, String.length_append]
  show 2 + _ ≤ 6
  omega

theorem length_fullTimerRow_le {name : String} (hname : name.length = 11) {value : Int}
    (h : 0 ≤ value ∧ value < 256) : (Segment.joined (fullTimerRow name value)).length ≤ 28 := by
  obtain ⟨hhex, _, hdecimal⟩ := length_byte_le h
  have hblank : " ".length = 1 := rfl
  have hslashes : " //".length = 3 := rfl
  rw [fullTimerRow, length_entry, String.length_append, String.length_append, hname, hblank, hslashes]
  omega

/-- The widest row is that of the program counter. -/
theorem length_row_le {snapshot : Snapshot} (hcount : snapshot.registers.length = registerCount)
    (hfits : snapshot.FitsMachine) :
    ∀ row ∈ fullRows snapshot, (Segment.joined row).length ≤ 28 := by
  have hblank : " ".length = 1 := rfl
  apply forall_mem_fullRows
  · have haddress := length_address_le hfits.programCounter
    rw [counterRow, length_entry, String.length_append, hblank]
    show 3 + (1 + _ + 18) ≤ 28
    omega
  · have haddress := length_address_le hfits.indexRegister
    have hlow : 0 ≤ snapshot.indexRegister % 256 ∧ snapshot.indexRegister % 256 < 256 := by omega
    obtain ⟨_, hbits, _⟩ := length_byte_le hlow
    rw [indexRow, length_entry, String.length_append, hblank]
    show 2 + (1 + _ + _) ≤ 28
    omega
  · intro number h
    obtain ⟨hhex, hbits, _⟩ := length_byte_le (hfits.registers _ (List.getElem_mem h))
    have hnumber : number < 16 := by
      rw [hcount] at h
      exact h
    have hname : (Numeral.render .hexadecimal 0 (number : Int)).length ≤ 1 :=
      length_render_le (Int.natCast_nonneg _) (show (number : Int).natAbs < 16 by omega)
        (by decide) (by decide)
    rw [registerRow, length_entry, String.length_append, String.length_append, hblank]
    show 3 + _ + (1 + _ + _) ≤ 28
    omega
  · exact length_fullTimerRow_le rfl hfits.delayTimer
  · exact length_fullTimerRow_le rfl hfits.soundTimer
  · exact Nat.zero_le 28

/-- At a width that no row exceeds, cutting the report at its line breaks gives rows of that width,
and nothing behind the last. -/
theorem cut_render [Capacity] {snapshot : Snapshot}
    (hcount : snapshot.registers.length = registerCount) (hshown : TimersShown snapshot)
    {columns : Int} (hwidth : ∀ row ∈ fullRows snapshot, (Segment.joined row).length ≤ columns)
    (hroom : HasRoom snapshot (some columns)) :
    ∃ text shown, render snapshot (some columns) = .ok text ∧
      Listing.cut text = shown ++ [[]] ∧ shown.length = 22 ∧
      ∀ row ∈ shown, (row.length : Int) = columns := by
  have hclean : ∀ text ∈ ((fullRows snapshot).map Segment.joined).map (Text.filled (some columns)),
      Text.clean text = true := by
    rw [List.map_map, List.forall_mem_map]
    intro row hrow
    rw [Function.comp_apply, ← Layout.append_blanks_eq]
    exact Text.clean_append (Text.clean_joined (clean_rows snapshot row hrow)) (Text.clean_blanks _)
  refine ⟨_, _, render_eq hcount hshown hroom, Listing.cut_ended hclean, ?_, ?_⟩
  · rw [List.length_map, List.length_map, List.length_map, length_fullRows, hcount]
    rfl
  · rw [List.forall_mem_map, List.forall_mem_map, List.forall_mem_map]
    intro row hrow
    have hrow := hwidth row hrow
    rw [String.length_toList, Text.length_filled]
    omega

/-- Timers such as the machine holds are shown. -/
theorem timersShown_of_fitsMachine {snapshot : Snapshot} (h : snapshot.FitsMachine) :
    TimersShown snapshot := by
  have hbyte : ∀ value : Int, 0 ≤ value ∧ value < 256 → Capacity.IsShown value := by
    intro value hvalue
    have hindex : 256 ≤ Capacity.indexLimit := by decide
    exact Capacity.isShown_of_lt_indexLimit (by omega)
  exact ⟨hbyte _ h.delayTimer, hbyte _ h.soundTimer⟩

/-- **A report is its lines, each filled by itself.** A snapshot with sixteen registers of any value
and timers that can be shown has twenty-two lines, two of them blank. With room for the blanks of
every row, the report at a width is these lines filled up to it, each ended by a line break, and
without the padding its stream is that of the report without a width. If a timer cannot be shown
there are no lines, and with room for the rows before it that is why there is no report. Without room
there is none because of too long a text. There is room for every width below the limit, and where no
width is asked for. With values such as the machine holds, every row has exactly the width from
twenty-eight columns on. -/
theorem render_fills_lines [Capacity] (snapshot : Snapshot)
    (hcount : snapshot.registers.length = registerCount) (width : Option Int) :
    (TimersShown snapshot →
      ∃ texts, lines snapshot = .ok texts ∧ texts.length = 22 ∧ texts[2]? = some "" ∧
        texts[19]? = some "" ∧
        (HasRoom snapshot width →
          render snapshot width =
            .ok (String.join (texts.map fun text => Text.filled width text ++ "\n")))) ∧
    (TimersShown snapshot → HasRoom snapshot width →
      ∃ stream bare, segments snapshot width = .ok stream ∧ segments snapshot none = .ok bare ∧
        stream.filter (fun segment => !segment.isPadding) = bare) ∧
    (¬TimersShown snapshot →
      lines snapshot = .error .tooLongToShow ∧
      (HasRoom snapshot width →
        render snapshot width = .error .tooLongToShow ∧
          segments snapshot width = .error .tooLongToShow)) ∧
    (¬HasRoom snapshot width →
      ∃ fault : Fault, fault.IsLength ∧ render snapshot width = .error fault ∧
        segments snapshot width = .error fault) ∧
    ((∀ columns, width = some columns → columns < Capacity.memoryLimit) → HasRoom snapshot width) ∧
    (snapshot.FitsMachine → ∀ columns, width = some columns → 28 ≤ columns →
      HasRoom snapshot width →
        ∃ text shown, render snapshot width = .ok text ∧ Listing.cut text = shown ++ [[]] ∧
          shown.length = 22 ∧ ∀ row ∈ shown, (row.length : Int) = columns) := by
  refine ⟨?_, ?_, ?_, ?_, fun h => hasRoom_of_lt h snapshot, ?_⟩
  · intro hshown
    refine ⟨_, lines_eq hcount hshown, ?_, rfl, ?_, ?_⟩
    · rw [List.length_map, length_fullRows, hcount]
      rfl
    · rw [List.getElem?_map, getElem?_fullRows_behind hcount 0]
      rfl
    · intro hroom
      rw [render_eq hcount hshown hroom, Segment.ended, List.map_map]
      rfl
  · intro hshown hroom
    refine ⟨_, _, segments_eq hcount hshown hroom,
      segments_eq hcount hshown (hasRoom_none snapshot), Layout.filter_stream ?_ width⟩
    intro row hrow segment hsegment
    have htag := tag_ne_plain snapshot row hrow segment hsegment
    simp [Segment.isPadding, htag]
  · intro hshown
    refine ⟨lines_of_not_timersShown hcount hshown, fun hroom => ?_⟩
    have hfault := segments_of_not_timersShown hcount hshown hroom
    exact ⟨render_eq_error hfault, hfault⟩
  · intro hroom
    obtain ⟨fault, hlength, hfault⟩ := segments_of_not_hasRoom hcount hroom
    exact ⟨fault, hlength, render_eq_error hfault, hfault⟩
  · intro hfits columns hwidth hwide hroom
    subst hwidth
    apply cut_render hcount (timersShown_of_fitsMachine hfits) _ hroom
    intro row hrow
    have hlength := length_row_le hcount hfits row hrow
    omega

/-- Negative and oversized values, at a width that some rows exceed and others do not. -/
theorem render_fills_lines_unusual :
    letI : Capacity := .tebibyte
    let snapshot : Snapshot := ⟨-1, 0x12345, List.replicate 15 0 ++ [-256], -5, 1000⟩
    snapshot.registers.length = registerCount ∧ TimersShown snapshot ∧ HasRoom snapshot (some 22) ∧
      ∃ texts, lines snapshot = .ok texts ∧ texts.length = 22 ∧
        render snapshot (some 22) =
          .ok (String.join (texts.map fun text => Text.filled (some 22) text ++ "\n")) := by
  let : Capacity := .tebibyte
  intro snapshot
  have hcount : snapshot.registers.length = registerCount := rfl
  have hshown : TimersShown snapshot := by decide
  obtain ⟨hlines, _, _, _, hlow, _⟩ := render_fills_lines snapshot hcount (some 22)
  obtain ⟨texts, hlines, hlength, _, _, hrender⟩ := hlines hshown
  have hroom : HasRoom snapshot (some 22) := by
    apply hlow
    intro columns hcolumns
    rw [← Option.some.inj hcolumns]
    decide
  exact ⟨hcount, hshown, hroom, texts, hlines, hlength, hrender hroom⟩

/-- A machine after a reset, at a width of more blanks than can be counted, and one with a timer of
4301 digits, without a width, whatever memory there is. -/
theorem report_beyond_index :
    (¬∃ (_ : Capacity) (text : String),
      render ⟨0x200, 0, List.replicate registerCount 0, 0, 0⟩ (some 9223372036854775836) =
        .ok text) ∧
    ¬∃ (_ : Capacity) (text : String),
      render ⟨0x200, 0, List.replicate registerCount 0, Int.pow 10 4300, 0⟩ none = .ok text := by
  constructor
  · rintro ⟨_, text, h⟩
    have hfault : render ⟨0x200, 0, List.replicate registerCount 0, 0, 0⟩
        (some 9223372036854775836) = .error (.textBeyondIndex 9223372036854775808) := by
      rfl
    rw [hfault] at h
    cases h
  · rintro ⟨_, text, h⟩
    have hpower : ¬Capacity.IsShown (Int.pow 10 4300) := Capacity.not_isShown_pow
    have hlong : ¬TimersShown ⟨0x200, 0, List.replicate registerCount 0, Int.pow 10 4300, 0⟩ :=
      fun hshown => hpower hshown.delay
    rw [render_eq_error (segments_of_not_timersShown rfl hlong (hasRoom_none _))] at h
    cases h

end Watch

end Chip8
