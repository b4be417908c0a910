import Chip8.Binary
import Chip8.Listing
import Chip8.Machine.Watch
import Chip8.Text.Literal

/-!
# Settings of the viewer

What the viewer shows and how. Every setting has a default.

A configuration can say more than the settings do: a number can have a fraction, a size can have
several extents, and a setting can be given by a reference that stands for nothing. What becomes of
it shows only once the setting is used, and so the viewer works with a resolution of the settings,
in which each of them is what was said, or the fault that asking for it gives.
-/

namespace Chip8

/-- The settings. A width that is `none` leaves rows as wide as they are. -/
structure Settings where
  roms : List String := []
  programBase : Int := ({} : Region).base
  memorySize : Int := ({} : Region).limit
  listingWidth : Option Int := some Listing.defaultWidth
  watchWidth : Option Int := some Watch.viewerWidth
  colourScheme : String := "monokai"
  showWatch : Bool := true
  highlight : Option Int := none
  logLevel : String := "INFO"
deriving DecidableEq, Repr

/-- What can be said of the size of memory. -/
inductive Extent where
  | bytes (size : Int)
  /-- A truth value, which counts as one or zero bytes. -/
  | truth (b : Bool)
  /-- Memory in several dimensions, which can be loaded but not listed. -/
  | extents (sizes : List Int)

/-- What can be said of the address where a program is loaded. -/
inductive Base where
  | address (a : Int)
  | number (r : Binary)
  /-- Something that nothing can be added to. -/
  | unsuited (fault : Fault)

namespace Base

/-- Something that nothing can be added to is refused. -/
def check : Base → Except Fault Unit
  | .unsuited fault => .error fault
  | _ => .ok ()

/-- The address where a program of the given length is put into memory of the given size. A number
with a fraction is none; a program that it would put beyond the end of memory is refused for the
complaint about that, which shows the address. -/
def place (base : Base) (length size : Nat) : Except Fault Int :=
  match base with
  | .address a => .ok a
  | .number r =>
    .error (if (r.add length).exceeds size then .fractionInHex else .unsuitable "program_base")
  | .unsuited fault => .error fault

end Base

/-- What can be said of the width of rows. -/
inductive Width where
  /-- Rows stay as wide as they are. -/
  | unlimited
  | columns (n : Int)
  | number (r : Binary)
  /-- Something that a number cannot be compared to. -/
  | unsuited

namespace Width

/-- A width that may be left out. -/
def ofOption : Option Int → Width
  | some n => .columns n
  | none => .unlimited

/-- How many columns a row takes. -/
def used (row : List Segment) : Nat :=
  (Segment.joined row).length

/-- The rows laid out. A number with a fraction is as good as no width for rows that reach it, but
no row can be filled up to it. -/
def lay [Capacity] (width : Width) (rows : List (List Segment)) : Except Fault (List Segment) :=
  match width with
  | .unlimited => Layout.stream? none rows
  | .columns n => Layout.stream? (some n) rows
  | .number r =>
    if rows.any fun row => r.exceeds (used row) then .error (.unsuitable "width")
    else Layout.stream? none rows
  | .unsuited => if rows.isEmpty then .ok [] else .error (.unsuitable "width")

end Width

/-- What can be said of the address to highlight. -/
inductive Pointer where
  | address (a : Int)
  | number (r : Binary)
  | text (s : String)
  | bytes (bs : List UInt8)
  | unsuited

namespace Pointer

/-- The address that lines are compared to, if there is one that a line can have. -/
def target? : Pointer → Option Int
  | .address a => some a
  | .number r => r.whole?
  | _ => none

/-- A line with its marker column, which every line has as soon as something is highlighted. -/
def row (pointer : Option Pointer) (line : Line) : List Segment :=
  match pointer with
  | none => line.row none
  | some p =>
    match p.target? with
    | some target => line.row (some target)
    | none => ⟨" ", .plain⟩ :: line.segments

/-- The whole number that is shown as the program counter. -/
def counter : Pointer → Except Fault Int
  | .address a => .ok a
  | .number r =>
    match r.truncate? with
    | some n => .ok n
    | none => .error (if r = .notANumber then .wholeOfNothing else .wholeOfInfinity)
  | .text s => Literal.integer s
  | .bytes bs => Literal.integerOfBytes bs
  | .unsuited => .error (.unsuitable "highlight")

end Pointer

/-- A base as the address to point at. -/
def Base.pointer : Base → Pointer
  | .address a => .address a
  | .number r => .number r
  | .unsuited _ => .unsuited

/-- Settings as they were given, of which some may have turned out to be no value. -/
structure Resolution where
  roms : Except Fault (List String)
  programBase : Except Fault Base
  memorySize : Except Fault Extent
  listingWidth : Except Fault Width
  watchWidth : Except Fault Width
  colourScheme : Except Fault String
  showWatch : Except Fault Bool
  highlight : Except Fault (Option Pointer)
  logLevel : Except Fault String

/-- Settings that are plain values, all of them. -/
def Settings.resolution (settings : Settings) : Resolution where
  roms := .ok settings.roms
  programBase := .ok (.address settings.programBase)
  memorySize := .ok (.bytes settings.memorySize)
  listingWidth := .ok (.ofOption settings.listingWidth)
  watchWidth := .ok (.ofOption settings.watchWidth)
  colourScheme := .ok settings.colourScheme
  showWatch := .ok settings.showWatch
  highlight := .ok (settings.highlight.map .address)
  logLevel := .ok settings.logLevel

/-- Rows of a plain width are laid out in the manner of a listing. -/
theorem Width.lay_ofOption [Capacity] (width : Option Int) (rows : List (List Segment)) :
    (Width.ofOption width).lay rows = Layout.stream? width rows := by
  cases width <;> rfl

/-- A plain address marks its own line. -/
theorem Pointer.row_map_address (highlight : Option Int) (line : Line) :
    Pointer.row (highlight.map .address) line = line.row highlight := by
  cases highlight <;> rfl

end Chip8
