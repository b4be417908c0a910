import Chip8.Terminal.Colour

/-!
# Palettes

A palette gives each tag a style. The named schemes have a style for every tag; a palette that is
put together by hand may lack some, which only shows when a segment needs one.
-/

namespace Chip8

/-- How text is shown. -/
structure Style where
  foreground : Colour
  background : Option Colour := none
  bold : Bool := false
  italic : Bool := false
deriving DecidableEq, Repr

/-- The styles of the tags that have one. -/
abbrev Palette := Tag → Option Style

/-- The named schemes. -/
inductive Scheme where
  | monokai
  | mono
deriving DecidableEq, Repr

namespace Scheme

/-- The name of a scheme. -/
def name : Scheme → String
  | .monokai => "monokai"
  | .mono => "mono"

/-- Behind text. -/
def ground : Colour := .rgb 0x27 0x28 0x22

/-- Behind the columns of addresses and words. -/
def gutter : Colour := .rgb 0x2F 0x31 0x29

/-- The style of a tag in a scheme. -/
def style : Scheme → Tag → Style
  | .monokai, .keyword => { foreground := .rgb 0xF9 0x26 0x72, background := ground }
  | .monokai, .register => { foreground := .rgb 0xA6 0xE2 0x2E, background := ground }
  | .monokai, .literal => { foreground := .rgb 0xAE 0x81 0xFF, background := ground }
  | .monokai, .comment =>
    { foreground := .rgb 0x5B 0x81 0x4C, background := ground, italic := true }
  | .monokai, .address =>
    { foreground := .rgb 0x8F 0x90 0x8A, background := gutter, bold := true }
  | .monokai, .opcode => { foreground := .rgb 0x81 0x33 0x1E, background := gutter }
  | .monokai, .plain => { foreground := .rgb 0xFF 0xFF 0xFF, background := ground }
  | .mono, _ => { foreground := .rgb 0xFF 0xFF 0xFF }

/-- The scheme with the given name. -/
def ofName (name : String) : Except Fault Scheme :=
  if name = Scheme.monokai.name then .ok .monokai
  else if name = Scheme.mono.name then .ok .mono
  else .error (.unknownPalette name)

/-- The palette of a scheme. -/
def palette (scheme : Scheme) : Palette :=
  fun tag => some (scheme.style tag)

end Scheme

end Chip8
