import Chip8.CommandLine.Assignment
import Chip8.Viewer.Batch

/-!
# The command line

Takes settings of the form `key=value` and shows the ROMs that they name, each as soon as it has
been read. The exit code is zero if every ROM could be shown.
-/

namespace Chip8

/-- The contents of a file. -/
def readImage (path : String) : IO (Except Fault Image) := do
  try
    return .ok ⟨(← IO.FS.readBinFile path).data⟩
  catch _ =>
    return .error (.fileNotFound path)

/-- The folder that the program runs in, with the given file as all that there is to read. -/
def openFile (name : String) : IO FileSystem := do
  let folder := Path.ofText (← IO.currentDir).toString
  let contents ← readImage name
  return ⟨folder, fun _ => contents⟩

/-- A clock that stands at the present. -/
def presentClock : IO Clock := do
  return ⟨[((← IO.monoMsNow) * Clock.ticksPerSecond / 1000 : Nat)]⟩

/-- A logger on the standard output. -/
def openLogger : IO (Except Fault Logger) := do
  let sink := if ← (← IO.getStdout).isTty then Sink.terminal else Sink.plain
  return Logger.create { sink, clock := ← presentClock }

/-- Writes what has come of a run so far; the exit code if it has ended. That there is no ROM is in
the log already. -/
def report (outcome : Viewer.Outcome) : IO (Option UInt32) := do
  IO.print outcome.out
  (← IO.getStdout).flush
  match outcome.ended with
  | .ok () => return none
  | .error .noRom => return some outcome.exitCode.toUInt32
  | .error fault =>
    IO.eprintln fault.message
    return some outcome.exitCode.toUInt32

/-- Shows the ROMs and gives the exit code. -/
def showAll [Capacity] (settings : Resolution) (logger : Logger) : List String → IO UInt32
  | [] => return 0
  | rom :: rest => do
    let logger := { logger with clock := ← presentClock }
    let outcome := Viewer.showRom settings (← openFile rom) rom logger
    match ← report outcome with
    | some code => return code
    | none => showAll settings outcome.logger rest

/-- Runs the viewer and gives the exit code. -/
def runViewer [Capacity] (settings : Resolution) (logger : Logger) : IO UInt32 := do
  let outcome := Viewer.start settings logger
  match ← report outcome, settings.roms with
  | some code, _ => return code
  | none, .ok roms => showAll settings outcome.logger roms
  | none, .error _ => return 1

/-- Says what is wrong and gives the exit code. -/
def refuse (complaint : String) : IO UInt32 := do
  IO.eprintln complaint
  return 1

end Chip8

open Chip8 in
/-- Runs the viewer on the settings of the command line. -/
def main (args : List String) : IO UInt32 := do
  match args.mapM Assignment.read? with
  | none => refuse "Settings have the form key=value"
  | some entries =>
    match Config.ofEntries entries, ← openLogger with
    | .error fault, _ | _, .error fault => refuse fault.message
    | .ok config, .ok logger =>
      letI : Capacity := .tebibyte
      runViewer config.resolution logger
