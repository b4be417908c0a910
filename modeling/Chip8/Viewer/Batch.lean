import Chip8.Console.Logger
import Chip8.Disassembly
import Chip8.Memory.Extents
import Chip8.Viewer.Folder
import Chip8.Viewer.Settings

/-!
# Running the viewer

A ROM is rendered by loading it into zeroed memory, listing the region from its base to the end of
memory, and colouring the listing and, if wanted, the watch report of the machine as it is after a
reset. A batch renders one ROM after the other and logs what it does. It ends at the first ROM that
fails; what was written before stays written.

Settings of an unsuitable kind show only where they are used. For settings that are plain values,
`watch_resolution` and `present_resolution` say what is done in terms of the listing and the watch
report alone.
-/

namespace Chip8

namespace Viewer

/-- Loads the ROM at a path into memory of the given size and lists it. The size is checked before
the file is looked for, and the file before the base. -/
def disassembleWithin [Capacity] (settings : Resolution) (files : FileSystem) (path : Path)
    (size : Int) : Except Fault Disassembly := do
  let memory ← Image.zeroed size
  let base ← settings.programBase
  let rom ← files.read path
  let address ← base.place rom.size memory.size
  let image ← memory.load rom.cells address
  Disassembly.ofImage image ⟨address, size⟩

/-- A complaint about memory whose size is a truth value, which is shown as one. -/
def sayTruth (size : Bool) : Fault → Fault
  | .address (.baseOutside base _) => .address (.baseOutsideTruth base size)
  | fault => fault

/-- Loads the ROM at a path into memory of several extents. That can succeed, but there is no
listing of such memory. -/
def loadExtents [Capacity] (settings : Resolution) (files : FileSystem) (path : Path)
    (sizes : List Int) : Except Fault Disassembly := do
  let extents ← Extents.ofSizes sizes
  let base ← settings.programBase
  let rom ← files.read path
  base.check
  match extents with
  | [] => .error .noFirstExtent
  | rows :: shape =>
    let address ← base.place rom.size rows
    Extents.load rows shape rom.size address
    .error (.unsuitable "memory_size")

/-- Loads the ROM at a path and lists it. -/
def disassemble [Capacity] (settings : Resolution) (files : FileSystem) (path : Path) :
    Except Fault Disassembly := do
  match ← settings.memorySize with
  | .bytes size => disassembleWithin settings files path size
  | .truth b => (disassembleWithin settings files path (if b then 1 else 0)).mapError (sayTruth b)
  | .extents sizes => loadExtents settings files path sizes

/-- Where the program counter of the watch report is: at the highlighted address, or else at the
base. -/
def watchPointer (settings : Resolution) : Except Fault Pointer := do
  match ← settings.highlight with
  | some pointer => return pointer
  | none => return (← settings.programBase).pointer

/-- With plain settings the program counter is an address. -/
theorem watchPointer_resolution (settings : Settings) :
    watchPointer settings.resolution =
      .ok (.address (settings.highlight.getD settings.programBase)) := by
  cases h : settings.highlight <;> simp [watchPointer, Settings.resolution, h] <;> rfl

/-- The watch report below a listing: the machine after a reset, but for its program counter. -/
def watch [Capacity] (settings : Resolution) : Except Fault (List Segment) := do
  if ← settings.showWatch then
    let pointer ← watchPointer settings
    let width ← settings.watchWidth
    let snapshot ← Snapshot.ofReadings { programCounter := ← pointer.counter }
    let rows ← Layout.make? none (Watch.rows snapshot)
    return Segment.newline :: (← width.lay rows)
  else
    return []

/-- With plain settings the report is the one of a snapshot. -/
theorem watch_resolution [Capacity] (settings : Settings) (wanted : settings.showWatch = true) :
    watch settings.resolution = (do
      let snapshot ←
        Snapshot.ofReadings { programCounter := settings.highlight.getD settings.programBase }
      return Segment.newline :: (← Watch.segments snapshot settings.watchWidth)) := by
  let counter := settings.highlight.getD settings.programBase
  simp only [watch, watchPointer_resolution]
  simp only [Settings.resolution, wanted]
  change (Layout.make? none (Watch.rows (.reset counter)) >>= fun rows =>
    (Width.ofOption settings.watchWidth).lay rows >>= _) = (Watch.segments (.reset counter) _ >>= _)
  rw [Watch.rows_of_timersShown (Watch.timersShown_reset counter), Layout.make?_map_ok,
    Layout.checkRoom_none, Watch.segments_reset, ← Width.lay_ofOption]
  rfl

/-- A disassembly as coloured text. -/
def present [Capacity] (settings : Resolution) (d : Disassembly) : Except Fault String := do
  let scheme ← Scheme.ofName (← settings.colourScheme)
  let width ← settings.listingWidth
  let highlight ← settings.highlight
  let listing ← width.lay (d.lines.map (Pointer.row highlight))
  let report ← watch settings
  Terminal.render scheme.palette (listing ++ report)

/-- Rows of plain settings are the ones of a listing. -/
theorem lay_rows [Capacity] (lines : List Line) (width highlight : Option Int) :
    (Width.ofOption width).lay (lines.map (Pointer.row (highlight.map .address))) =
      Listing.segments lines width highlight := by
  rw [Width.lay_ofOption, Listing.segments]
  congr 2
  funext line
  exact Pointer.row_map_address highlight line

/-- With plain settings a disassembly is shown as its listing and the report. -/
theorem present_resolution [Capacity] (settings : Settings) (d : Disassembly) :
    present settings.resolution d = (do
      let scheme ← Scheme.ofName settings.colourScheme
      let listing ← Listing.segments d.lines settings.listingWidth settings.highlight
      let report ← watch settings.resolution
      Terminal.render scheme.palette (listing ++ report)) := by
  simp only [← lay_rows]
  rfl

/-- The ROM at a path as coloured text. -/
def renderRom [Capacity] (settings : Resolution) (files : FileSystem) (path : Path) :
    Except Fault String := do
  present settings (← disassemble settings files path)

/-- What has come of a run so far: the text written, the logger, and whether it can go on. -/
structure Outcome where
  out : String
  logger : Logger
  ended : Except Fault Unit

namespace Outcome

/-- A message to the logger. -/
def say (logger : Logger) (severity : Severity) (message : String) : Outcome :=
  match logger.log severity.name message with
  | (.ok out, next) => ⟨out, next, .ok ()⟩
  | (.error fault, next) => ⟨"", next, .error fault⟩

/-- A text on a line of its own. -/
def print (logger : Logger) (text : String) : Outcome :=
  ⟨text ++ "\n", logger, .ok ()⟩

/-- The end of a run that failed. -/
def fail (logger : Logger) (fault : Fault) : Outcome :=
  ⟨"", logger, .error fault⟩

/-- Goes on, unless the run has ended. -/
def andThen (outcome : Outcome) (next : Logger → Outcome) : Outcome :=
  match outcome.ended with
  | .error _ => outcome
  | .ok () =>
    let later := next outcome.logger
    ⟨outcome.out ++ later.out, later.logger, later.ended⟩

/-- What the run tells the system at its end: zero if nothing failed. -/
def exitCode (outcome : Outcome) : Nat :=
  match outcome.ended with
  | .ok () => 0
  | .error _ => 1

end Outcome

/-- Shows one ROM. Its disassembly is reported as soon as it is made, so also where its rendering
fails. -/
def showRom [Capacity] (settings : Resolution) (files : FileSystem) (rom : String)
    (logger : Logger) : Outcome :=
  let path := files.resolve rom
  (Outcome.say logger .info ("Disassembling " ++ path.text)).andThen fun logger =>
    match disassemble settings files path with
    | .error fault => .fail logger fault
    | .ok d =>
      (Outcome.say logger .debug (Listing.record d.lines d.region)).andThen fun logger =>
        match present settings d with
        | .error fault => .fail logger fault
        | .ok text => .print logger text

/-- Shows one ROM after the other. -/
def showRoms [Capacity] (settings : Resolution) (files : FileSystem) : List String → Logger → Outcome
  | [], logger => ⟨"", logger, .ok ()⟩
  | rom :: rest, logger =>
    (showRom settings files rom logger).andThen (showRoms settings files rest)

/-- Sets the logger's level. -/
def setLevel (settings : Resolution) (logger : Logger) : Outcome :=
  match settings.logLevel >>= logger.setLevel with
  | .error fault => .fail logger fault
  | .ok logger => ⟨"", logger, .ok ()⟩

/-- Complains that there is no ROM to show. -/
def refuse (logger : Logger) : Outcome :=
  (Outcome.say logger .error (Fault.message .noRom)).andThen fun logger => .fail logger .noRom

/-- Starts a run: sets the logger's level, and complains if there is no ROM to show. -/
def start (settings : Resolution) (logger : Logger) : Outcome :=
  (setLevel settings logger).andThen fun logger =>
    match settings.roms with
    | .error fault => .fail logger fault
    | .ok [] => refuse logger
    | .ok (_ :: _) => ⟨"", logger, .ok ()⟩

/-- Runs the viewer on all ROMs of the settings. -/
def run [Capacity] (settings : Resolution) (files : FileSystem) (logger : Logger) : Outcome :=
  (start settings logger).andThen fun logger =>
    match settings.roms with
    | .error fault => .fail logger fault
    | .ok roms => showRoms settings files roms logger

end Viewer

end Chip8
