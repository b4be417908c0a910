import Chip8.Terminal.Palette

/-!
# Coloured text

A terminal is told a style by an escape sequence: the escape character, a bracket, numbers with
semicolons between them, and the letter `m`. Each segment is written as one block of style, text and
reset. A segment that is just a line break is written as it is, whatever its tag, so that at the end
of a line no style is left in force.
-/

namespace Chip8

namespace Terminal

/-- The character that starts an escape sequence. -/
def escape : Char := '\x1b'

/-- An escape sequence with the given numbers. -/
def sequence (codes : List String) : String :=
  String.ofList [escape, '['] ++ ";".intercalate codes ++ "m"

/-- The sequence that ends every style. -/
def reset : String :=
  sequence ["0"]

/-- A colour after the numbers that say what it colours. Its channels are written in their order, so
that one that cannot be shown is found before one that is missing. -/
def colourCode (layer : String) (colour : Colour) : Except Fault String := do
  let codes ← (colour.channels.take 3).mapM Capacity.decimal
  if codes.length < 3 then .error (.missingChannel colour.channels.length)
  else return ";".intercalate (layer :: "2" :: codes)

/-- The sequence that puts a style in force. -/
def styleSequence (style : Style) : Except Fault String := do
  let weight := (if style.bold then ["1"] else []) ++ (if style.italic then ["3"] else [])
  let foreground ← colourCode "38" style.foreground
  let background ←
    match style.background with
    | none => pure []
    | some colour => do pure [← colourCode "48" colour]
  return sequence (weight ++ [foreground] ++ background)

/-- One segment in colour. -/
def block (palette : Palette) (segment : Segment) : Except Fault String :=
  if segment.text = "\n" then .ok "\n"
  else
    match palette segment.tag with
    | none => .error (.missingStyle segment.tag)
    | some style => do
      return (← styleSequence style) ++ segment.text ++ reset

/-- A stream of segments in colour. -/
def render (palette : Palette) (segments : List Segment) : Except Fault String :=
  (segments.mapM (block palette)).map String.join

end Terminal

end Chip8
