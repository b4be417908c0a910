import Chip8.Layout
import Chip8.Machine.Snapshot

/-!
# The watch report

A snapshot is reported in twenty-two rows: the program counter, the index register, a blank row, the
sixteen registers, a blank row and the two timers. Each value is shown twice, the second time in
another radix; of the index register only the low byte is shown again. Timers are the values that are
shown in decimal, for which they can have too many digits.
-/

namespace Chip8

namespace Watch

/-- The width of a report in the viewer. -/
def viewerWidth : Nat := 30

/-- A row: the name of a value, the value, and the value again or a remark. -/
def entry (name value remark : String) : List Segment :=
  [⟨name, .register⟩, ⟨value, .literal⟩, ⟨remark, .comment⟩]

/-- A byte or more in binary, after the slashes of a remark. -/
def bits (value : Int) : String :=
  " //b" ++ Numeral.render .binary 8 value

/-- The row of the program counter. -/
def counterRow (value : Int) : List Segment :=
  entry " PC" (" " ++ Numeral.hex 4 value) " //Program Counter"

/-- The row of the index register. -/
def indexRow (value : Int) : List Segment :=
  entry " I" (" " ++ Numeral.hex 4 value) (bits (value % 256))

/-- The row of a general register. -/
def registerRow (number : Nat) (value : Int) : List Segment :=
  entry ("  V" ++ Numeral.render .hexadecimal 0 number) (" " ++ Numeral.hex 2 value) (bits value)

/-- The row of a timer. Only timers are shown in decimal, and so only their rows can fail. -/
def timerRow (name : String) (value : Int) : Except Fault (List Segment) := do
  return entry name (" " ++ (← Capacity.decimal value)) (" //" ++ Numeral.hex 2 value)

/-- The rows above the timers, a blank row at their end. -/
def upperRows (snapshot : Snapshot) : List (List Segment) :=
  [counterRow snapshot.programCounter, indexRow snapshot.indexRegister, []] ++
    snapshot.registers.mapIdx registerRow ++ [[]]

/-- The rows of a report. -/
def rows (snapshot : Snapshot) : List (Except Fault (List Segment)) :=
  (upperRows snapshot).map .ok ++
    [timerRow " DelayTimer" snapshot.delayTimer, timerRow " SoundTimer" snapshot.soundTimer]

/-- The report, its rows filled up to the width if there is one. A snapshot without exactly sixteen
registers has none. -/
def segments [Capacity] (snapshot : Snapshot) (width : Option Int) : Except Fault (List Segment) :=
  if snapshot.registers.length = registerCount then
    (Layout.make? width (rows snapshot)).map (Layout.stream width)
  else .error (.registerCount snapshot.registers.length)

/-- The report as text. -/
def render [Capacity] (snapshot : Snapshot) (width : Option Int) : Except Fault String :=
  (segments snapshot width).map Segment.joined

/-- The rows of the report as texts, not filled up. -/
def lines [Capacity] (snapshot : Snapshot) : Except Fault (List String) :=
  (segments snapshot none).map fun stream => (Segment.rows stream).map Segment.joined

/-! ## Reports of timers that can be shown -/

/-- The row of a timer in full, however many digits it has. -/
def fullTimerRow (name : String) (value : Int) : List Segment :=
  entry name (" " ++ Numeral.decimal value) (" //" ++ Numeral.hex 2 value)

/-- The rows of a report in full. -/
def fullRows (snapshot : Snapshot) : List (List Segment) :=
  upperRows snapshot ++
    [fullTimerRow " DelayTimer" snapshot.delayTimer, fullTimerRow " SoundTimer" snapshot.soundTimer]

/-- What holds of each kind of row holds of every row. -/
theorem forall_mem_fullRows {p : List Segment → Prop} {snapshot : Snapshot}
    (hcounter : p (counterRow snapshot.programCounter))
    (hindex : p (indexRow snapshot.indexRegister))
    (hregister : ∀ number (h : number < snapshot.registers.length),
      p (registerRow number snapshot.registers[number]))
    (hdelay : p (fullTimerRow " DelayTimer" snapshot.delayTimer))
    (hsound : p (fullTimerRow " SoundTimer" snapshot.soundTimer)) (hblank : p []) :
    ∀ row ∈ fullRows snapshot, p row := by
  intro row hrow
  simp only [fullRows, upperRows, List.mem_append, List.mem_cons, List.not_mem_nil,
    or_false] at hrow
  rcases hrow with (((rfl | rfl | rfl) | hmem) | rfl) | rfl | rfl
  · exact hcounter
  · exact hindex
  · exact hblank
  · obtain ⟨number, h, rfl⟩ := List.mem_mapIdx.mp hmem
    exact hregister number h
  · exact hblank
  · exact hdelay
  · exact hsound

/-- There are six rows besides those of the registers. -/
theorem length_fullRows (snapshot : Snapshot) :
    (fullRows snapshot).length = snapshot.registers.length + 6 := by
  simp only [fullRows, upperRows, List.length_append, List.length_mapIdx, List.length_cons,
    List.length_nil]
  omega

/-- Both timers are short enough to be shown. -/
structure TimersShown (snapshot : Snapshot) : Prop where
  delay : Capacity.IsShown snapshot.delayTimer
  sound : Capacity.IsShown snapshot.soundTimer

instance (snapshot : Snapshot) : Decidable (TimersShown snapshot) :=
  decidable_of_iff (Capacity.IsShown snapshot.delayTimer ∧ Capacity.IsShown snapshot.soundTimer)
    ⟨fun h => ⟨h.1, h.2⟩, fun h => ⟨h.delay, h.sound⟩⟩

theorem timerRow_of_isShown {name : String} {value : Int} (h : Capacity.IsShown value) :
    timerRow name value = .ok (fullTimerRow name value) := by
  rw [timerRow, Capacity.decimal, if_pos h]
  rfl

theorem timerRow_of_not_isShown {name : String} {value : Int} (h : ¬Capacity.IsShown value) :
    timerRow name value = .error .tooLongToShow := by
  rw [timerRow, Capacity.decimal, if_neg h]
  rfl

/-- If the timers can be shown, every row is made. -/
theorem rows_of_timersShown {snapshot : Snapshot} (h : TimersShown snapshot) :
    rows snapshot = (fullRows snapshot).map .ok := by
  rw [rows, fullRows, timerRow_of_isShown h.delay, timerRow_of_isShown h.sound, List.map_append]
  rfl

/-- If the timers can be shown, the report is its rows laid out. -/
theorem segments_of_timersShown [Capacity] {snapshot : Snapshot} (h : TimersShown snapshot)
    (hcount : snapshot.registers.length = registerCount) (width : Option Int) :
    segments snapshot width = Layout.stream? width (fullRows snapshot) := by
  rw [segments, if_pos hcount, rows_of_timersShown h, Layout.make?_map_ok, Layout.stream?]
  cases Layout.checkRoom width (fullRows snapshot) <;> rfl

/-- After a reset both timers are zero. -/
theorem timersShown_reset (counter : Int) : TimersShown (Snapshot.reset counter) := by
  have hzero : Capacity.IsShown 0 := by decide
  exact ⟨hzero, hzero⟩

theorem segments_reset [Capacity] (counter : Int) (width : Option Int) :
    segments (Snapshot.reset counter) width =
      Layout.stream? width (fullRows (Snapshot.reset counter)) :=
  segments_of_timersShown (timersShown_reset counter) rfl width

end Watch

end Chip8
