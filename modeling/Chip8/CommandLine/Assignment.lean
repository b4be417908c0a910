import Chip8.CommandLine.Reading

/-!
# Settings on the command line

A value of the configuration is replaced by an argument of the form `key=value`. The value is
`null`, a truth value, a number, names in brackets with commas between them, or else a text.
-/

namespace Chip8

namespace Assignment

/-- Names in brackets. -/
def names? : List Char → Option (List String)
  | '[' :: rest =>
    match rest.reverse with
    | ']' :: inner =>
      if inner.isEmpty then some []
      else some ((Text.pieces ',' inner.reverse).map String.ofList)
    | _ => none
  | _ => none

/-- The value that characters denote. -/
def valueOf (cs : List Char) : Value :=
  match names? cs with
  | some names => .list .given (names.map .text)
  | none => .scalar (Reference.Reader.scalarOf (String.ofList cs))

/-- The key and the value of an argument. -/
def read? (argument : String) : Option (String × Value) :=
  match argument.toList.span (· != '=') with
  | (key, '=' :: value) => some (String.ofList key, valueOf value)
  | _ => none

end Assignment

end Chip8
