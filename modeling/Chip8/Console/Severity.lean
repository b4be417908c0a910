import Chip8.Text.Uppercase

/-!
# Severities

Messages have one of five severities. They are given by name, in any mixture of cases; a name that
is none of the five ranks as an informational message.
-/

namespace Chip8

/-- How severe a message is, the least severe first. -/
inductive Severity where
  | debug
  | info
  | warning
  | error
  | critical
deriving DecidableEq, Repr

namespace Severity

/-- Every severity, the least severe first. -/
def all : List Severity :=
  [.debug, .info, .warning, .error, .critical]

/-- The name of a severity, in capitals. -/
def name : Severity → String
  | .debug => "DEBUG"
  | .info => "INFO"
  | .warning => "WARNING"
  | .error => "ERROR"
  | .critical => "CRITICAL"

/-- The place of a severity in their order. -/
def rank : Severity → Nat
  | .debug => 0
  | .info => 1
  | .warning => 2
  | .error => 3
  | .critical => 4

/-- The severity with the given name, which has to be in capitals. -/
def ofName? (text : String) : Option Severity :=
  all.find? fun severity => severity.name == text

/-- The rank of a name in capitals; a name of no severity ranks with `info`. -/
def rankOf (text : String) : Nat :=
  ((ofName? text).getD .info).rank

end Severity

end Chip8
