import Chip8.Text.Quoted
import Chip8.CommandLine.Document.Cursor

/-!
# The styles of scalars

A scalar is written in one of three styles. A plain one is words with spaces between them, which
ends where a mark has a meaning. A quoted one ends at its quote; in double quotes a backslash
escapes. Both can go over several lines: a single break between two lines counts as a space, and of
several breaks the first does not count. A block scalar is the lines below its header, literally or
folded, as far as they are indented; the header says what becomes of the breaks after the last line.
-/

namespace Chip8

namespace Document

open Scan

/-- What a break and the ones after it count as inside a scalar. -/
def folded (first : Char) (others : List Char) : List Char :=
  if first ≠ '\n' then first :: others
  else if others.isEmpty then [' ']
  else others

/-! ## Quoted scalars -/

/-- The breaks after one inside quotes, and the blanks around them. -/
def quotedBreaks : Scan (List Char) :=
  many do
    if (← get).atBoundary then failure
    let _ ← run isBlank
    lineBreak

/-- Blanks and breaks inside quotes. -/
def quotedGap : Scan (List Char) := do
  let blanks ← run isBlank
  match ← lineBreak with
  | some first => return folded first (← quotedBreaks)
  | none => return blanks

/-- The character that one after a backslash stands for. -/
def escaped? : Char → Option Char
  | '0' => some '\x00'
  | 'a' => some '\x07'
  | 'b' => some '\x08'
  | 't' | '\t' => some '\t'
  | 'n' => some '\n'
  | 'v' => some '\x0b'
  | 'f' => some '\x0c'
  | 'r' => some '\r'
  | 'e' => some '\x1b'
  | 'N' => some '\x85'
  | '_' => some '\xA0'
  | 'L' => some '\u2028'
  | 'P' => some '\u2029'
  | c => if " \"/\\".toList.contains c then some c else none

/-- How many digits of a code point follow a letter after a backslash. -/
def codeLength? : Char → Option Nat
  | 'x' => some 2
  | 'u' => some 4
  | 'U' => some 8
  | _ => none

/-- A code point of so many hexadecimal digits. -/
def codePoint (length : Nat) : Scan Char := do
  let digits := (← get).rest.take length
  if digits.length ≠ length then failure
  let code ← (Numeral.magnitude? .hexadecimal digits : Option Nat)
  skip length
  (Text.ofCode? code : Option Char)

/-- What a backslash and what follows it stand for. -/
def escape : Scan (List Char) := do
  mark '\\'
  match ← peek with
  | none => failure
  | some c =>
    match escaped? c, codeLength? c with
    | some d, _ =>
      skip 1
      return [d]
    | none, some length =>
      skip 1
      return [← codePoint length]
    | none, none =>
      match ← lineBreak with
      | some _ => quotedBreaks
      | none => failure

/-- The next piece of a scalar inside quotes, unless the closing quote comes next. -/
def quotedPiece (quote : Char) : Scan (Option (List Char)) := do
  match (← get).rest with
  | [] => failure
  | c :: rest =>
    if c = quote then
      if quote = '\x27' ∧ rest.head? = some quote then
        skip 2
        return some [quote]
      else return none
    else if c = '\\' ∧ quote = '\x22' then return some (← escape)
    else if isBlank c || isBreak c then return some (← quotedGap)
    else
      skip 1
      return some [c]

/-- A scalar inside quotes. -/
def quoted (quote : Char) : Scan (List Char) := do
  mark quote
  let pieces ← many (quotedPiece quote)
  mark quote
  return pieces.flatten

/-! ## Plain scalars -/

/-- Whether brackets and braces give a character a meaning of its own. -/
def isFlowMark (c : Char) : Bool :=
  ",[]\x7b\x7d".toList.contains c

/-- The characters of a word. It ends at blanks, at a colon that is followed by one, and inside
brackets and braces at their marks. -/
def wordOf (inFlow : Bool) : List Char → List Char
  | [] => []
  | c :: rest =>
    let stops :=
      isBlank c || isBreak c || (inFlow && (isFlowMark c || c == '?')) ||
        (c == ':' && (endsWord rest.head? || (inFlow && rest.head?.any isFlowMark)))
    if stops then [] else c :: wordOf inFlow rest

/-- What stands between two words, and whether there is a line break in it. -/
structure Gap where
  text : List Char
  broken : Bool

/-- The breaks after one, and the spaces between them; none if the document ends there. -/
def plainBreaks : Nat → Scan (Option (List Char))
  | 0 => return some []
  | allowance + 1 => do
    spaces
    match ← lineBreak with
    | none => return some []
    | some c =>
      if (← get).atBoundary then return none
      return (← plainBreaks allowance).map (c :: ·)

/-- What stands after a word. -/
def plainGap : Scan Gap := do
  let blanks ← run (· == ' ')
  match ← lineBreak with
  | none => return ⟨blanks, false⟩
  | some first =>
    if (← get).atBoundary then return ⟨[], true⟩
    match ← plainBreaks ((← get).rest.length + 1) with
    | none => return ⟨[], true⟩
    | some others => return ⟨folded first others, true⟩

/-- The words after a gap, and whether there is a line break after the last of them. Lines that are
not indented up to the margin do not belong to the scalar. -/
def plainWords (inFlow : Bool) (margin : Nat) : Nat → Gap → Scan (List Char × Bool)
  | 0, _ => failure
  | allowance + 1, gap => do
    let word := wordOf inFlow (← get).rest
    if word.isEmpty || (← peek) = some '#' then return ([], gap.broken)
    skip word.length
    let after ← plainGap
    let place ← get
    if after.text.isEmpty || place.rest.head? = some '#' ||
        (!inFlow && place.column < margin) then
      return (gap.text ++ word, after.broken)
    let (more, broken) ← plainWords inFlow margin allowance after
    return (gap.text ++ word ++ more, broken)

/-- A plain scalar, and whether there is a line break after it. -/
def plain (inFlow : Bool) (margin : Nat) : Scan (List Char × Bool) := do
  plainWords inFlow margin ((← get).rest.length + 1) ⟨[], false⟩

/-! ## Block scalars -/

/-- What becomes of the breaks after the last line: all but one are dropped, all are, or none. -/
inductive Tail where
  | clip
  | strip
  | keep
deriving DecidableEq, Repr

/-- What becomes of the last breaks, if the header says so. -/
def tailMark : Scan (Option Tail) := do
  match ← peek with
  | some '+' =>
    skip 1
    return some .keep
  | some '-' =>
    skip 1
    return some .strip
  | _ => return none

/-- How much further the lines are indented, if the header says so. -/
def indentMark : Scan (Option Nat) := do
  match ← peek with
  | some c =>
    if !c.isDigit then return none
    if c = '0' then failure
    skip 1
    return some (c.toNat - '0'.toNat)
  | none => return none

/-- The header of a block scalar after its first mark, which ends the line but for a remark. -/
def blockHeader : Scan (Tail × Option Nat) := do
  let first ← tailMark
  let indent ← indentMark
  let last ← if first.isNone && indent.isSome then tailMark else pure none
  if !endsProperty (← peek) then failure
  restOfLine
  return ((first <|> last).getD .clip, indent)

/-- The breaks before the first line that has more than spaces, and how far the spaces reach. -/
def leadingBreaks : Nat → Scan (List Char × Nat)
  | 0 => return ([], 0)
  | allowance + 1 => do
    spaces
    let column := (← get).column
    match ← lineBreak with
    | none => return ([], column)
    | some c =>
      let (later, deepest) ← leadingBreaks allowance
      return (c :: later, max column deepest)

/-- Passes over the indentation of a line. -/
def indentation (indent : Nat) : Scan Unit := do
  let place ← get
  skip ((place.rest.take (indent - place.column)).takeWhile (· == ' ')).length

/-- The breaks up to the next line that has more than its indentation. -/
def blockBreaks (indent : Nat) : Scan (List Char) := do
  indentation indent
  many do
    let found ← lineBreak
    indentation indent
    return found

/-- The lines of a block scalar. -/
structure Block where
  text : List Char
  /-- The break after the last line. -/
  last : Option Char
  /-- The breaks after that one. -/
  later : List Char

/-- Whether another line of a block scalar starts here. -/
def inBlock (indent : Nat) (place : Cursor) : Bool :=
  place.column == indent && !place.rest.isEmpty

/-- The lines of a block scalar after some breaks. Folding joins two lines that both start with more
than a blank. -/
def blockLines (folding : Bool) (indent : Nat) : Nat → List Char → Scan Block
  | 0, breaks => return ⟨[], none, breaks⟩
  | allowance + 1, breaks => do
    if !inBlock indent (← get) then return ⟨[], none, breaks⟩
    let level := (← peek).all (!isBlank ·)
    let line ← run (!isBreak ·)
    let last ← lineBreak
    let later ← blockBreaks indent
    if !inBlock indent (← get) then return ⟨breaks ++ line, last, later⟩
    let joint :=
      if folding && last == some '\n' && level && (← peek).all (!isBlank ·) then
        if later.isEmpty then [' '] else []
      else last.toList
    let block ← blockLines folding indent allowance later
    return { block with text := breaks ++ line ++ joint ++ block.text }

/-- A block scalar inside a margin. The first line that has more than spaces, or else the longest
line of spaces before it, sets the indentation, if the header does not. -/
def block (margin : Nat) : Scan (List Char) := do
  let folding := (← peek) = some '>'
  skip 1
  let (tail, increment) ← blockHeader
  let least := max margin 1
  let allowance := (← get).rest.length + 1
  let (breaks, indent) ←
    match increment with
    | some n => do
      let indent := least + n - 1
      pure (← blockBreaks indent, indent)
    | none => do
      let (breaks, deepest) ← leadingBreaks allowance
      pure (breaks, max least deepest)
  let lines ← blockLines folding indent allowance breaks
  let last := if tail = .strip then [] else lines.last.toList
  let later := if tail = .keep then lines.later else []
  return lines.text ++ last ++ later

end Document

end Chip8
