/-!
# Places in a document

A document is read from its front. A place in it is what follows, and the line and the column that
have been reached, because indentation means something. Lines end at any of five characters; a
carriage return and a line feed together are one break. The mark of the byte order takes no column.

`Scan` is reading on from a place. It fails where a document cannot be read.
-/

namespace Chip8

namespace Document

/-- The characters that a line can end with. -/
def isBreak (c : Char) : Bool :=
  c == '\n' || c == '\r' || c == '\x85' || c == '\u2028' || c == '\u2029'

/-- Spaces and tabs. -/
def isBlank (c : Char) : Bool :=
  c == ' ' || c == '\t'

/-- The characters that a document can have. -/
def isLegible (c : Char) : Bool :=
  c == '\t' || c == '\n' || c == '\r' || c == '\x85' || (' ' ≤ c && c ≤ '~') ||
    ('\xA0' ≤ c && c ≠ '\uFFFE' && c ≠ '\uFFFF')

/-- The mark of the byte order. -/
def orderMark : Char := '\uFEFF'

/-- Whether a line ends here: at a break or at the end of the document. -/
def endsLine (next : Option Char) : Bool :=
  next.all isBreak

/-- Whether a word ends here: at a blank, a break or the end of the document. -/
def endsWord (next : Option Char) : Bool :=
  next.all fun c => isBlank c || isBreak c

/-- Whether a property of a node ends here: at a space, a break or the end of the document. -/
def endsProperty (next : Option Char) : Bool :=
  next.all fun c => c == ' ' || isBreak c

/-- A place in a document. -/
structure Cursor where
  rest : List Char
  index : Nat := 0
  line : Nat := 0
  column : Nat := 0

namespace Cursor

/-- The place after the next character. -/
def next (place : Cursor) : Cursor :=
  match place.rest with
  | [] => place
  | c :: rest =>
    let index := place.index + 1
    if isBreak c && !(c == '\r' && rest.head? == some '\n') then
      { rest, index, line := place.line + 1, column := 0 }
    else
      { place with rest, index, column := if c = orderMark then place.column else place.column + 1 }

/-- The place after a number of characters. -/
def skip (place : Cursor) : Nat → Cursor
  | 0 => place
  | n + 1 => place.next.skip n

/-- Whether the line starts with three characters, and nothing else up to the end of the word. -/
def startsWith (place : Cursor) (mark : List Char) : Bool :=
  place.rest.take 3 == mark && endsWord place.rest[3]?

/-- Whether a document starts here, if this is the start of a line. -/
def atStart (place : Cursor) : Bool :=
  place.startsWith ['-', '-', '-']

/-- Whether a document ends here, if this is the start of a line. -/
def atFinish (place : Cursor) : Bool :=
  place.startsWith ['.', '.', '.']

/-- Whether a document starts or ends here, if this is the start of a line. -/
def atBoundary (place : Cursor) : Bool :=
  place.atStart || place.atFinish

end Cursor

/-- Reading on from a place. -/
abbrev Scan := StateT Cursor Option

namespace Scan

/-- The next character, which stays unread. -/
def peek : Scan (Option Char) := do
  return (← get).rest.head?

/-- Passes over a number of characters. -/
def skip (count : Nat) : Scan Unit :=
  modify fun place => place.skip count

/-- Reads one certain character. -/
def mark (c : Char) : Scan Unit := do
  if (← peek) ≠ some c then failure
  skip 1

/-- The longest run of characters of a kind. -/
def run (ofKind : Char → Bool) : Scan (List Char) := do
  let taken := (← get).rest.takeWhile ofKind
  skip taken.length
  return taken

/-- Passes over spaces. -/
def spaces : Scan Unit := do
  let _ ← run (· == ' ')

/-- A line break, if there is one. All but the separators of lines and of paragraphs count as a line
feed. -/
def lineBreak : Scan (Option Char) := do
  match (← get).rest with
  | '\r' :: '\n' :: _ =>
    skip 2
    return some '\n'
  | c :: _ =>
    if isBreak c then
      skip 1
      return some (if c = '\u2028' ∨ c = '\u2029' then c else '\n')
    else return none
  | [] => return none

/-- Reads on, item by item, as long as there are more. No item is without characters, so the
characters that are left bound their number. -/
def many {α : Type} (item : Scan (Option α)) : Scan (List α) := do
  collect ((← get).rest.length + 1)
where
  /-- The items, up to a number of them. -/
  collect : Nat → Scan (List α)
    | 0 => return []
    | allowance + 1 => do
      match ← item with
      | none => return []
      | some a => return a :: (← collect allowance)

/-- Passes over the rest of a line on which there is nothing more than a remark. -/
def restOfLine : Scan Unit := do
  spaces
  if (← peek) = some '#' then
    let _ ← run (!isBreak ·)
  if !endsLine (← peek) then failure
  let _ ← lineBreak

/-- Passes over spaces, remarks and line breaks up to the next token, and tells whether there was a
line break. -/
def toToken : Scan Bool := do
  let place ← get
  if place.index = 0 ∧ place.rest.head? = some orderMark then skip 1
  let breaks ← many do
    spaces
    if (← peek) = some '#' then
      let _ ← run (!isBreak ·)
    lineBreak
  return !breaks.isEmpty

end Scan

end Document

end Chip8
