import Chip8.Console.Clock
import Chip8.Console.Severity
import Chip8.Terminal.Escape

/-!
# The console logger

A logger writes the messages whose rank reaches its threshold, each as one line: the time since the
logger was made, the severity as it was given, the logger's name and the message. On a terminal the
severity is coloured. The clock is read once when a logger is made and once for each stamp that is
written.
-/

namespace Chip8

/-- What a logger writes to. A bare sink cannot tell whether it is a terminal. -/
inductive Sink where
  | plain
  | terminal
  | bare
deriving DecidableEq, Repr

/-- Whether colours make sense on a sink. -/
def Sink.isTerminal : Sink → Bool
  | .terminal => true
  | .plain | .bare => false

/-- A logger. The level is the name of its threshold, in capitals. -/
structure Logger where
  name : String
  level : String
  colours : Bool
  stamps : Bool
  start : Int
  clock : Clock
deriving DecidableEq, Repr

/-- What a logger can be told when it is made. -/
structure Logger.Options where
  name : String := "chipdis"
  level : String := "INFO"
  colours : Bool := true
  stamps : Bool := true
  sink : Sink := .plain
  clock : Clock := {}

/-- What a logger is asked to do. -/
inductive Logger.Step where
  | log (level message : String)
  | setLevel (level : String)
deriving DecidableEq, Repr

/-- What came of a step: the text written, and the level after it. -/
structure Logger.Entry where
  out : String
  level : String
deriving DecidableEq, Repr

namespace Logger

/-- A new logger, unless its clock cannot be read. Any level is taken here, also one that ranks only
because it is unknown. -/
def create (options : Options) : Except Fault Logger := do
  let (start, clock) := options.clock.read
  return {
    name := options.name
    level := Text.uppercase options.level
    colours := options.colours && options.sink.isTerminal
    stamps := options.stamps
    start := ← start
    clock }

/-- The sequence that colours a severity, given in capitals. The name `RESET` stands for no colour
at all. -/
def tint (level : String) : String :=
  match level with
  | "DEBUG" => Terminal.sequence ["36"]
  | "INFO" => Terminal.sequence ["32"]
  | "WARNING" => Terminal.sequence ["33"]
  | "ERROR" => Terminal.sequence ["31"]
  | "CRITICAL" => Terminal.sequence ["35"]
  | "RESET" => Terminal.reset
  | _ => ""

/-- The severity of a message in its column. -/
def badge (logger : Logger) (level : String) : String :=
  let text := "[" ++ Text.alignRight 8 level ++ "]"
  if logger.colours then tint (Text.uppercase level) ++ text ++ Terminal.reset else text

/-- The line of a message under a given stamp. -/
def line (logger : Logger) (stamp level message : String) : String :=
  stamp ++ logger.badge level ++ "[" ++ logger.name ++ "] " ++ message ++ "\n"

/-- Whether messages of a level are written. -/
def admits (logger : Logger) (level : String) : Bool :=
  Severity.rankOf logger.level ≤ Severity.rankOf (Text.uppercase level)

/-- The stamp of a message, and the logger with its clock read. -/
def stamp (logger : Logger) : Except Fault String × Logger :=
  if logger.stamps then
    let (now, clock) := logger.clock.read
    (now.map (Stamp.render logger.start), { logger with clock })
  else (.ok "", logger)

/-- The text written for a message, and the logger after it. A message that cannot be stamped is not
written, though the clock has gone on. -/
def log (logger : Logger) (level message : String) : Except Fault String × Logger :=
  if logger.admits level then
    let (stamp, next) := logger.stamp
    (stamp.map fun text => logger.line text level message, next)
  else (.ok "", logger)

/-- The logger with another threshold, which has to be one of the five severities. -/
def setLevel (logger : Logger) (level : String) : Except Fault Logger :=
  let capitals := Text.uppercase level
  match Severity.ofName? capitals with
  | some _ => .ok { logger with level := capitals }
  | none => .error (.unknownLevel level)

/-- The text written in a step, and the logger after it. -/
def perform (logger : Logger) : Step → Except Fault String × Logger
  | .log level message => logger.log level message
  | .setLevel level =>
    match logger.setLevel level with
    | .ok next => (.ok "", next)
    | .error fault => (.error fault, logger)

/-- What comes of a step, and the logger after it. A step that fails leaves the level as it was. -/
def step (logger : Logger) (s : Step) : Except Fault Entry × Logger :=
  let (out, next) := logger.perform s
  (out.map fun text => ⟨text, next.level⟩, next)

/-- What comes of steps taken one after the other. -/
def run (logger : Logger) : List Step → List (Except Fault Entry)
  | [] => []
  | s :: rest => (logger.step s).1 :: (logger.step s).2.run rest

/-- The logger after steps taken one after the other. -/
def after (logger : Logger) (steps : List Step) : Logger :=
  steps.foldl (fun current s => (current.step s).2) logger

end Logger

end Chip8
