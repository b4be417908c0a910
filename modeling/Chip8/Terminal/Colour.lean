import Chip8.Text.Literal

/-!
# Colours

A colour is a run of channels: red, green and blue, of which a terminal needs all three and ignores
any more. Colours are written as six hexadecimal digits after any number of hashes, two digits for
each channel. A channel is read as a number is: it may have a sign, blanks around it and digits of
any script.
-/

namespace Chip8

/-- A colour by its channels, red, green and blue first. -/
structure Colour where
  channels : List Int
deriving DecidableEq, Repr

namespace Colour

/-- The colour with the given channels. -/
def rgb (red green blue : Int) : Colour :=
  ⟨[red, green, blue]⟩

/-- The value of a channel. -/
def channel (cs : List Char) : Except Fault Int :=
  match Literal.read? .hexadecimal cs with
  | some value => .ok value
  | none => .error (.badChannel (String.ofList cs))

/-- The colour that a text denotes. What follows the six digits is not looked at, and a text that is
too short lacks a channel. -/
def ofHex (text : String) : Except Fault Colour := do
  let digits := text.toList.dropWhile (· == '#')
  let red ← channel (digits.take 2)
  let green ← channel ((digits.drop 2).take 2)
  let blue ← channel ((digits.drop 4).take 2)
  return rgb red green blue

end Colour

end Chip8
