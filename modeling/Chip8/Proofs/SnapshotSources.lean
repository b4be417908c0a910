import Chip8.Proofs.Fetch
import Chip8.Proofs.ReportRows

/-!
# Where snapshots come from

A snapshot is put together as it stands, made from readings, or taken from an interpreter. The last
two check the registers, each for being a byte and then all of them for their number, and a report
counts them once more. A snapshot that is put together may hold anything, and only its report
refuses it.

To compare the three, one snapshot is what all of them start from: `Snapshot.readings` and
`Snapshot.state` hand its values over as they are. `Snapshot.ofReadings_cases` has all that can come
of them, in the order of the checks: a value that is no byte is reported whatever the number of
registers. `Watch.segments_cases` does the same for reports.

The main statement is `Snapshot.sources_agree`. `Snapshot.report_too_wide` is a width at which a
snapshot that was accepted has no report.
-/

namespace Chip8

namespace Snapshot

/-- The values of a snapshot as readings, with the registers in a row. -/
def readings (snapshot : Snapshot) : Readings where
  programCounter := snapshot.programCounter
  indexRegister := snapshot.indexRegister
  registers := some (Grid.row snapshot.registers)
  delayTimer := snapshot.delayTimer
  soundTimer := snapshot.soundTimer

/-- An interpreter that shows the values of a snapshot. -/
def state (snapshot : Snapshot) : MachineState where
  pc := snapshot.programCounter
  i := snapshot.indexRegister
  v := some (Grid.row snapshot.registers)
  delayTimer := snapshot.delayTimer
  soundTimer := snapshot.soundTimer

/-- Every register holds a byte. -/
def HoldsBytes (snapshot : Snapshot) : Prop :=
  ∀ value ∈ snapshot.registers, 0 ≤ value ∧ value ≤ 255

/-! ## Checking registers -/

/-- Of a row each value is looked at, and then its length. -/
theorem registersOf_row (values : List Int) :
    registersOf (Grid.row values) =
      match values.find? (fun value => !isByte value) with
      | some value => .error (.notAByte value)
      | none =>
        if values.length = registerCount then .ok values
        else .error (.registerShape [values.length]) := by
  have hflat : ¬dimensionLimit < (Grid.row values).shape.length := by
    show ¬64 < 1
    decide
  have hshape : (Grid.row values).shape = [registerCount] ↔ values.length = registerCount := by
    show [values.length] = [registerCount] ↔ _
    simp
  rw [registersOf, if_neg hflat]
  simp only [hshape]
  rfl

theorem ofReadings_readings (snapshot : Snapshot) :
    ofReadings snapshot.readings =
      (registersOf (Grid.row snapshot.registers)).map fun registers =>
        { snapshot with registers } := by
  show (registersOf (Grid.row snapshot.registers) >>= _) = _
  cases registersOf (Grid.row snapshot.registers) <;> rfl

/-- What comes of the values of a snapshot: a register that is no byte is refused, then a number of
them that is not sixteen, and otherwise the values are kept as they are. -/
theorem ofReadings_cases (snapshot : Snapshot) :
    (∃ value ∈ snapshot.registers, ¬(0 ≤ value ∧ value ≤ 255) ∧
      ofReadings snapshot.readings = .error (.notAByte value)) ∨
    (snapshot.HoldsBytes ∧ snapshot.registers.length ≠ registerCount ∧
      ofReadings snapshot.readings = .error (.registerShape [snapshot.registers.length])) ∨
    (snapshot.HoldsBytes ∧ snapshot.registers.length = registerCount ∧
      ofReadings snapshot.readings = .ok snapshot) := by
  rw [ofReadings_readings, registersOf_row]
  cases hfound : snapshot.registers.find? (fun value => !isByte value) with
  | some value =>
    have hvalue := List.find?_some hfound
    rw [Bool.not_eq_true', ← Bool.not_eq_true, isByte_iff] at hvalue
    exact Or.inl ⟨value, List.mem_of_find?_eq_some hfound, hvalue, rfl⟩
  | none =>
    have hbytes : snapshot.HoldsBytes := by
      intro value hmem
      have hvalue := List.find?_eq_none.mp hfound value hmem
      rw [← isByte_iff]
      simpa using hvalue
    by_cases hcount : snapshot.registers.length = registerCount
    · simp only [if_pos hcount]
      exact Or.inr (Or.inr ⟨hbytes, hcount, rfl⟩)
    · simp only [if_neg hcount]
      exact Or.inr (Or.inl ⟨hbytes, hcount, rfl⟩)

theorem exists_notAByte_iff_register (snapshot : Snapshot) :
    (∃ value, ofReadings snapshot.readings = .error (.notAByte value)) ↔
      ∃ value ∈ snapshot.registers, ¬(0 ≤ value ∧ value ≤ 255) := by
  obtain ⟨value, hmem, hvalue, hfault⟩ | ⟨hbytes, _, hfault⟩ | ⟨hbytes, _, hmade⟩ :=
    ofReadings_cases snapshot
  · exact iff_of_true ⟨value, hfault⟩ ⟨value, hmem, hvalue⟩
  · refine iff_of_false ?_ fun ⟨value, hmem, hvalue⟩ => hvalue (hbytes value hmem)
    intro ⟨value, h⟩
    cases hfault.symm.trans h
  · refine iff_of_false ?_ fun ⟨value, hmem, hvalue⟩ => hvalue (hbytes value hmem)
    intro ⟨value, h⟩
    cases hmade.symm.trans h

theorem registerShape_iff (snapshot : Snapshot) :
    ofReadings snapshot.readings = .error (.registerShape [snapshot.registers.length]) ↔
      snapshot.HoldsBytes ∧ snapshot.registers.length ≠ registerCount := by
  obtain ⟨value, hmem, hvalue, hfault⟩ | ⟨hbytes, hcount, hfault⟩ | ⟨_, hcount, hmade⟩ :=
    ofReadings_cases snapshot
  · refine iff_of_false ?_ fun ⟨hbytes, _⟩ => hvalue (hbytes value hmem)
    intro h
    cases hfault.symm.trans h
  · exact iff_of_true hfault ⟨hbytes, hcount⟩
  · refine iff_of_false ?_ fun ⟨_, hother⟩ => hother hcount
    intro h
    cases hmade.symm.trans h

theorem ofReadings_eq_ok {snapshot : Snapshot} (hbytes : snapshot.HoldsBytes)
    (hcount : snapshot.registers.length = registerCount) :
    ofReadings snapshot.readings = .ok snapshot := by
  obtain ⟨value, hmem, hvalue, _⟩ | ⟨_, hother, _⟩ | ⟨_, _, hmade⟩ := ofReadings_cases snapshot
  · exact absurd (hbytes value hmem) hvalue
  · exact absurd hcount hother
  · exact hmade

end Snapshot

/-! ## Counting registers -/

/-- A fault of a length is none of the others of a report. -/
theorem Fault.IsLength.ne_others {fault : Fault} (h : fault.IsLength) :
    fault ≠ .tooLongToShow ∧ ∀ count, fault ≠ .registerCount count := by
  obtain ⟨length, rfl | rfl⟩ := h
  · exact ⟨nofun, nofun⟩
  · exact ⟨nofun, nofun⟩

namespace Watch

/-- A report is refused for its registers, for its length or for a timer, in this order, and the
number of the registers is all that is asked of them. -/
theorem segments_cases [Capacity] (snapshot : Snapshot) (width : Option Int) :
    (snapshot.registers.length ≠ registerCount ∧
      segments snapshot width = .error (.registerCount snapshot.registers.length)) ∨
    (snapshot.registers.length = registerCount ∧
      ((¬HasRoom snapshot width ∧
          ∃ fault : Fault, fault.IsLength ∧ segments snapshot width = .error fault) ∨
        (HasRoom snapshot width ∧ ¬TimersShown snapshot ∧
          segments snapshot width = .error .tooLongToShow) ∨
        (HasRoom snapshot width ∧ TimersShown snapshot ∧
          ∃ stream, segments snapshot width = .ok stream))) := by
  by_cases hcount : snapshot.registers.length = registerCount
  · refine Or.inr ⟨hcount, ?_⟩
    by_cases hroom : HasRoom snapshot width
    · refine Or.inr ?_
      by_cases hshown : TimersShown snapshot
      · exact Or.inr ⟨hroom, hshown, _, segments_eq hcount hshown hroom⟩
      · exact Or.inl ⟨hroom, hshown, segments_of_not_timersShown hcount hshown hroom⟩
    · exact Or.inl ⟨hroom, segments_of_not_hasRoom hcount hroom⟩
  · refine Or.inl ⟨hcount, ?_⟩
    rw [segments, if_neg hcount]

theorem registerCount_iff [Capacity] (snapshot : Snapshot) (width : Option Int) :
    (∃ count, segments snapshot width = .error (.registerCount count)) ↔
      snapshot.registers.length ≠ registerCount := by
  obtain ⟨hcount, hfault⟩ | ⟨hcount, ⟨_, fault, hlength, hfault⟩ | ⟨_, _, hfault⟩ |
    ⟨_, _, stream, hstream⟩⟩ := segments_cases snapshot width
  · exact iff_of_true ⟨_, hfault⟩ hcount
  · refine iff_of_false ?_ fun hother => hother hcount
    intro ⟨count, h⟩
    exact hlength.ne_others.2 count (Except.error.inj (hfault.symm.trans h))
  · refine iff_of_false ?_ fun hother => hother hcount
    intro ⟨count, h⟩
    cases hfault.symm.trans h
  · refine iff_of_false ?_ fun hother => hother hcount
    intro ⟨count, h⟩
    cases hstream.symm.trans h

section

variable [Capacity] {snapshot : Snapshot} (hcount : snapshot.registers.length = registerCount)
  (width : Option Int)

include hcount

/-- With sixteen registers there is a report exactly if there is room and the timers can be shown. -/
theorem exists_segments_iff :
    (∃ stream, segments snapshot width = .ok stream) ↔
      TimersShown snapshot ∧ HasRoom snapshot width := by
  obtain ⟨hother, _⟩ | ⟨_, ⟨hroom, fault, _, hfault⟩ | ⟨_, hshown, hfault⟩ |
    ⟨hroom, hshown, hstream⟩⟩ := segments_cases snapshot width
  · exact absurd hcount hother
  · refine iff_of_false ?_ fun h => hroom h.2
    intro ⟨stream, hstream⟩
    cases hfault.symm.trans hstream
  · refine iff_of_false ?_ fun h => hshown h.1
    intro ⟨stream, hstream⟩
    cases hfault.symm.trans hstream
  · exact iff_of_true hstream ⟨hshown, hroom⟩

/-- With room, a timer that cannot be shown is what a report is refused for. -/
theorem tooLongToShow_iff :
    segments snapshot width = .error .tooLongToShow ↔
      ¬TimersShown snapshot ∧ HasRoom snapshot width := by
  obtain ⟨hother, _⟩ | ⟨_, ⟨hroom, fault, hlength, hfault⟩ | ⟨hroom, hshown, hfault⟩ |
    ⟨_, hshown, stream, hstream⟩⟩ := segments_cases snapshot width
  · exact absurd hcount hother
  · refine iff_of_false ?_ fun h => hroom h.2
    intro h
    exact hlength.ne_others.1 (Except.error.inj (hfault.symm.trans h))
  · exact iff_of_true hfault ⟨hshown, hroom⟩
  · refine iff_of_false ?_ fun h => h.1 hshown
    intro h
    cases hstream.symm.trans h

/-- Nothing else but the width can be at fault. -/
theorem fault_of_segments {fault : Fault} (h : segments snapshot width = .error fault) :
    fault = .tooLongToShow ∨ fault.IsLength := by
  obtain ⟨hother, _⟩ | ⟨_, ⟨_, other, hlength, hfault⟩ | ⟨_, _, hfault⟩ |
    ⟨_, _, stream, hstream⟩⟩ := segments_cases snapshot width
  · exact absurd hcount hother
  · cases hfault.symm.trans h
    exact Or.inr hlength
  · cases hfault.symm.trans h
    exact Or.inl rfl
  · cases hstream.symm.trans h

end

end Watch

namespace Snapshot

/-- **All ways to a snapshot agree.** For any registers and any other values, readings are refused
for a register that is no byte exactly if there is one, whatever the number of registers, and then
for their number exactly if it is not sixteen; an interpreter that shows the values fares the same.
What is accepted is a snapshot with the report of the one put together from the values as they are,
at every width. There is such a report exactly if its timers can be shown and there is room for its
blanks, as for every width below the limit and where no width is asked for. A snapshot that is put
together is refused for the number of its registers exactly if it is not sixteen, whatever they hold;
otherwise for a timer exactly if there is room and one cannot be shown, and for nothing else but a
text that is too long. -/
theorem sources_agree [Capacity] (snapshot : Snapshot) :
    ((∃ value, ofReadings snapshot.readings = .error (.notAByte value)) ↔
      ∃ value ∈ snapshot.registers, ¬(0 ≤ value ∧ value ≤ 255)) ∧
    (ofReadings snapshot.readings = .error (.registerShape [snapshot.registers.length]) ↔
      (∀ value ∈ snapshot.registers, 0 ≤ value ∧ value ≤ 255) ∧
        snapshot.registers.length ≠ registerCount) ∧
    ofState snapshot.state = ofReadings snapshot.readings ∧
    ((∀ value ∈ snapshot.registers, 0 ≤ value ∧ value ≤ 255) →
      snapshot.registers.length = registerCount →
        ∃ made, ofReadings snapshot.readings = .ok made ∧
          ∀ width, Watch.segments made width = Watch.segments snapshot width ∧
            ((∃ stream, Watch.segments made width = .ok stream) ↔
              Watch.TimersShown made ∧ Watch.HasRoom made width) ∧
            ((∀ columns, width = some columns → columns < Capacity.memoryLimit) →
              Watch.HasRoom made width)) ∧
    ∀ width,
      ((∃ count, Watch.segments snapshot width = .error (.registerCount count)) ↔
        snapshot.registers.length ≠ registerCount) ∧
      (snapshot.registers.length = registerCount →
        (Watch.segments snapshot width = .error .tooLongToShow ↔
          ¬Watch.TimersShown snapshot ∧ Watch.HasRoom snapshot width) ∧
        ∀ fault, Watch.segments snapshot width = .error fault →
          fault = .tooLongToShow ∨ fault.IsLength) := by
  refine ⟨exists_notAByte_iff_register snapshot, registerShape_iff snapshot, rfl, ?_, ?_⟩
  · intro hbytes hcount
    refine ⟨snapshot, ofReadings_eq_ok hbytes hcount, fun width => ⟨rfl, ?_, ?_⟩⟩
    · exact Watch.exists_segments_iff hcount width
    · exact fun h => Watch.hasRoom_of_lt h snapshot
  · intro width
    refine ⟨Watch.registerCount_iff snapshot width, fun hcount => ⟨?_, ?_⟩⟩
    · exact Watch.tooLongToShow_iff hcount width
    · exact fun _ hfault => Watch.fault_of_segments hcount width hfault

/-- Bytes up to the last in the registers, and other values that are none. -/
theorem sources_agree_last_byte :
    letI : Capacity := .tebibyte
    let snapshot : Snapshot := ⟨0x2A0, -1, 0 :: List.replicate 15 255, 1000, -3⟩
    (∀ value ∈ snapshot.registers, 0 ≤ value ∧ value ≤ 255) ∧
      snapshot.registers.length = registerCount ∧
      ∃ made stream, ofReadings snapshot.readings = .ok made ∧ ofState snapshot.state = .ok made ∧
        Watch.segments made (some 30) = .ok stream ∧
        Watch.segments snapshot (some 30) = .ok stream := by
  let : Capacity := .tebibyte
  intro snapshot
  have hbytes : ∀ value ∈ snapshot.registers, 0 ≤ value ∧ value ≤ 255 := by decide
  have hcount : snapshot.registers.length = registerCount := rfl
  obtain ⟨_, _, hstate, haccepted, _⟩ := sources_agree snapshot
  obtain ⟨made, hmade, hreport⟩ := haccepted hbytes hcount
  have hshown : Watch.TimersShown made := by
    rw [← Except.ok.inj ((ofReadings_eq_ok hbytes hcount).symm.trans hmade)]
    decide
  obtain ⟨hsame, hiff, hlow⟩ := hreport (some 30)
  have hbelow : ∀ columns : Int, some 30 = some columns → columns < Capacity.memoryLimit := by
    intro columns hcolumns
    rw [← Option.some.inj hcolumns]
    decide
  obtain ⟨stream, hstream⟩ := hiff.mpr ⟨hshown, hlow hbelow⟩
  exact ⟨hbytes, hcount, made, stream, hmade, hstate.trans hmade, hstream, hsame ▸ hstream⟩

/-- A machine after a reset is accepted, but at a width of more blanks than can be counted there is
no report of it, whatever memory there is. -/
theorem report_too_wide :
    ∃ made,
      ofReadings { registers := some (Grid.row (List.replicate registerCount 0)) } = .ok made ∧
      ¬∃ (_ : Capacity) (stream : List Segment),
        Watch.segments made (some 9223372036854775836) = .ok stream := by
  refine ⟨⟨0x200, 0, List.replicate registerCount 0, 0, 0⟩, by rfl, ?_⟩
  rintro ⟨_, stream, h⟩
  have hfault : Watch.segments ⟨0x200, 0, List.replicate registerCount 0, 0, 0⟩
      (some 9223372036854775836) = .error (.textBeyondIndex 9223372036854775808) := by
    rfl
  rw [hfault] at h
  cases h

end Snapshot

end Chip8
