import Chip8.Text.Numeral
import Chip8.Text.Printable

/-!
# Quoted text

A text shown in a message is put in quotes, so that blanks and controls in it can be seen. Single
quotes are used unless the text holds one and no double quote. Inside, the quote in use and the
backslash are escaped, line breaks and tabs have short escapes, and any other character that is not
printable is given by its code point in two, four or eight hexadecimal digits.

Bytes are shown in the same way after the letter `b`, as the ASCII characters that they are; a byte
beyond ASCII is given in hexadecimal digits.
-/

namespace Chip8

namespace Text

/-- The quote that a text is put in. -/
def quoteFor (cs : List Char) : Char :=
  if cs.contains '\x27' && !cs.contains '\x22' then '\x22' else '\x27'

/-- Half of a pair of code units has a code point of its own, but is no character. It is kept as the
character of the last private plane that is so much further up. -/
def halfOffset : Nat := 0x100000

/-- Whether a code point is half of a pair. -/
def isHalf (code : Nat) : Bool :=
  0xD800 ≤ code && code ≤ 0xDFFF

/-- The code point that a character stands for. -/
def codeOf (c : Char) : Nat :=
  if isHalf (c.toNat - halfOffset) then c.toNat - halfOffset else c.toNat

/-- The character of a code point, if there is one. -/
def ofCode? (code : Nat) : Option Char :=
  if isHalf code then some (Char.ofNat (code + halfOffset))
  else if code.isValidChar then some (Char.ofNat code)
  else none

/-- The code point of a character after the letter that announces its number of digits. -/
def codeEscape (c : Char) : List Char :=
  let code := codeOf c
  if code < 0x100 then ['\\', 'x'] ++ Numeral.chars .hexadecimal 2 code
  else if code < 0x10000 then ['\\', 'u'] ++ Numeral.chars .hexadecimal 4 code
  else ['\\', 'U'] ++ Numeral.chars .hexadecimal 8 code

/-- One character as it stands between quotes. -/
def quotedChar (quote c : Char) : List Char :=
  if c = quote ∨ c = '\\' then ['\\', c]
  else if c = '\t' then ['\\', 't']
  else if c = '\n' then ['\\', 'n']
  else if c = '\r' then ['\\', 'r']
  else if isPrintable c then [c]
  else codeEscape c

/-- The text in quotes. -/
def quoted (text : String) : String :=
  let cs := text.toList
  let quote := quoteFor cs
  String.ofList (quote :: cs.flatMap (quotedChar quote) ++ [quote])

/-- One byte as it stands between quotes. -/
def quotedByte (quote : Char) (byte : UInt8) : List Char :=
  let c := Char.ofNat byte.toNat
  if byte.toNat < 0x7F then quotedChar quote c else codeEscape c

/-- Bytes in quotes. -/
def quotedBytes (bytes : List UInt8) : String :=
  let quote := quoteFor (bytes.map fun byte => Char.ofNat byte.toNat)
  String.ofList ('b' :: quote :: bytes.flatMap (quotedByte quote) ++ [quote])

end Text

end Chip8
