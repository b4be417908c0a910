import Chip8.Text.Literal
import Chip8.CommandLine.Document.Style

/-!
# Tokens

A document is cut into tokens: the marks of lists and tables, properties of nodes, and scalars. What
indentation says is made explicit. A list or a table in lines starts with a token that no mark
stands for, and ends with another where the indentation goes back.

A key is not known to be one before its colon. So each node that could be a key is remembered, up to
the end of its line; the token of a key is then put in front of it. A node that is indented like the
keys of the table around it has to be one.
-/

namespace Chip8

namespace Document

/-- The pieces of a document. -/
inductive Token where
  /-- The version of the format. -/
  | version
  /-- A short form for the start of tags. -/
  | shorthand (handle full : String)
  /-- A directive without a meaning. -/
  | directive
  | documentStart
  | documentEnd
  /-- The start of a list in lines. -/
  | listStart
  /-- The start of a table in lines. -/
  | tableStart
  /-- The end of a list or a table in lines. -/
  | blockEnd
  | bracketOpen
  | bracketClose
  | braceOpen
  | braceClose
  | comma
  /-- The dash in front of an item. -/
  | item
  | key
  | value
  | alias (name : String)
  | anchor (name : String)
  /-- A tag: its short form, if it has one, and the rest of it. -/
  | tag (handle : Option String) (rest : String)
  | scalar (plain : Bool) (text : String)
deriving DecidableEq, Repr

open Scan

/-! ## Properties and directives -/

/-- The characters of names. -/
def isNameChar (c : Char) : Bool :=
  c.isAlphanum || c == '-' || c == '_'

/-- The name of a node, after its mark. -/
def name : Scan String := do
  skip 1
  let cs ← run isNameChar
  let next ← peek
  if cs.isEmpty || !(endsWord next || next.any "?:,]\x7d%@`".toList.contains) then failure
  return String.ofList cs

/-- The characters of tags, other than escapes. -/
def isTagChar (c : Char) : Bool :=
  c.isAlphanum || "-;/?:@&=+$,_.!~*'()[]".toList.contains c

/-- A byte in two hexadecimal digits after its mark, if there is one. -/
def escapedByte : Scan (Option UInt8) := do
  match (← get).rest with
  | '%' :: rest =>
    let digits := rest.take 2
    if digits.length ≠ 2 then failure
    let code ← (Numeral.magnitude? .hexadecimal digits : Option Nat)
    skip 3
    return some (UInt8.ofNat code)
  | _ => return none

/-- The next piece of a tag: plain characters, or bytes that make up characters. -/
def tagPiece : Scan (Option String) := do
  let cs ← run isTagChar
  if !cs.isEmpty then return some (String.ofList cs)
  match ← many escapedByte with
  | [] => return none
  | bytes =>
    let s ← (String.fromUTF8? ⟨bytes.toArray⟩ : Option String)
    return some s

/-- The characters of a tag. -/
def tagText : Scan String := do
  match ← many tagPiece with
  | [] => failure
  | pieces => return String.join pieces

/-- A short form: a name between two exclamation marks, or a single one before a space. -/
def handle : Scan String := do
  mark '!'
  if (← peek) = some ' ' then return "!"
  let cs ← run isNameChar
  mark '!'
  return String.ofList ('!' :: cs ++ ['!'])

/-- A tag: in full between angle brackets, or with a short form, or a mere exclamation mark. -/
def tag : Scan Token := do
  let after := (← get).rest.drop 1
  let found ←
    if after.head? = some '<' then do
      skip 2
      let s ← tagText
      mark '>'
      pure (Token.tag none s)
    else if endsWord after.head? then do
      skip 1
      pure (Token.tag none "!")
    else if (after.takeWhile fun c => !(c == ' ' || isBreak c)).contains '!' then do
      let h ← handle
      pure (Token.tag (some h) (← tagText))
    else do
      skip 1
      pure (Token.tag (some "!") (← tagText))
  if !endsProperty (← peek) then failure
  return found

/-- A run of digits, not too many of them. -/
def versionNumber : Scan Nat := do
  let digits ← run Char.isDigit
  if Capacity.digitLimit < digits.length then failure
  (Numeral.magnitude? .decimal digits : Option Nat)

/-- A directive. The version has to be one that can be read. -/
def directive : Scan Token := do
  mark '%'
  let cs ← run isNameChar
  if cs.isEmpty || !endsProperty (← peek) then failure
  let found ←
    match String.ofList cs with
    | "YAML" => do
      spaces
      let major ← versionNumber
      mark '.'
      let _ ← versionNumber
      if major ≠ 1 || !endsProperty (← peek) then failure
      pure Token.version
    | "TAG" => do
      spaces
      let h ← handle
      if (← peek) ≠ some ' ' then failure
      spaces
      let full ← tagText
      if !endsProperty (← peek) then failure
      pure (Token.shorthand h full)
    | _ => do
      let _ ← run (!isBreak ·)
      pure Token.directive
  restOfLine
  return found

/-! ## Indentation and keys -/

/-- A node that could be a key: the number of its first token, whether it has to be one, and where
it starts. -/
structure KeyPlace where
  position : Nat
  required : Bool
  start : Cursor

/-- How far a document has been cut into tokens. -/
structure Lexer where
  place : Cursor
  /-- How many brackets and braces are open. -/
  depth : Nat := 0
  /-- The least column of what belongs to an item or an entry of the innermost block. -/
  margin : Nat := 0
  /-- The margins of the blocks around it. -/
  outer : List Nat := []
  /-- Whether a key could start here. -/
  keyAllowed : Bool := true
  /-- The nodes that could be keys, at most one for each depth. -/
  keys : List (Nat × KeyPlace) := []
  tokens : Array Token := #[]

/-- Cutting into tokens. -/
abbrev Lex := StateT Lexer Option

namespace Lex

/-- Reads on from the place that has been reached. -/
def scan {α : Type} (reading : Scan α) : Lex α := do
  let state ← get
  let (a, place) ← (StateT.run reading state.place : Option (α × Cursor))
  set { state with place }
  return a

/-- Adds a token. -/
def emit (token : Token) : Lex Unit :=
  modify fun state => { state with tokens := state.tokens.push token }

/-- Says whether a key could start here. -/
def allowKey (allowed : Bool) : Lex Unit :=
  modify fun state => { state with keyAllowed := allowed }

/-- The key that could be at the present depth is none. -/
def dropKey : Lex Unit := do
  let state ← get
  if (state.keys.lookup state.depth).any (·.required) then failure
  set { state with keys := state.keys.filter (·.1 ≠ state.depth) }

/-- How far a key can be from its colon. -/
def keyReach : Nat := 1024

/-- The keys of other lines, and of too far back, are none. -/
def dropStaleKeys : Lex Unit := do
  let state ← get
  let isStale : Nat × KeyPlace → Bool := fun (_, key) =>
    key.start.line ≠ state.place.line || keyReach < state.place.index - key.start.index
  if state.keys.any fun key => isStale key && key.2.required then failure
  set { state with keys := state.keys.filter (!isStale ·) }

/-- The node that starts here could be a key, if one is allowed. -/
def noteKey : Lex Unit := do
  if (← get).keyAllowed then
    dropKey
    let state ← get
    let key : KeyPlace := {
      position := state.tokens.size
      required := state.depth = 0 && state.margin = state.place.column + 1
      start := state.place }
    set { state with keys := (state.depth, key) :: state.keys }

/-- Ends the blocks that are indented further than a column. -/
def closeBlocks (column : Nat) : Lex Unit := do
  let state ← get
  if state.depth = 0 then
    let closed := (state.margin :: state.outer).takeWhile (column + 1 < ·)
    let left := (state.margin :: state.outer).drop closed.length
    set { state with
      margin := left.headD 0
      outer := left.tail
      tokens := state.tokens ++ (closed.map fun _ => Token.blockEnd).toArray }

/-- Ends all blocks. -/
def closeAll : Lex Unit := do
  let state ← get
  if state.depth = 0 then
    let closed := (state.margin :: state.outer).takeWhile (0 < ·)
    set { state with
      margin := 0
      outer := []
      tokens := state.tokens ++ (closed.map fun _ => Token.blockEnd).toArray }

/-- Starts a block at a column, if it is indented further than the one around it. The token of the
start goes to a position. -/
def openBlock (column position : Nat) (start : Token) : Lex Unit :=
  modify fun state =>
    if state.margin ≤ column then
      { state with
        margin := column + 1
        outer := state.margin :: state.outer
        tokens := state.tokens.extract 0 position ++ #[start] ++
          state.tokens.extract position state.tokens.size }
    else state

/-- Starts a block here, where a key has to be allowed. -/
def openHere (start : Token) : Lex Unit := do
  let state ← get
  if !state.keyAllowed then failure
  openBlock state.place.column state.tokens.size start

/-! ## Token by token -/

/-- A token of some characters. -/
def symbol (length : Nat) (token : Token) : Lex Unit := do
  scan (skip length)
  emit token

/-- A mark between documents. -/
def boundary (token : Token) : Lex Unit := do
  closeAll
  dropKey
  allowKey false
  symbol 3 token

/-- An opening bracket or brace. -/
def opening (token : Token) : Lex Unit := do
  noteKey
  modify fun state => { state with depth := state.depth + 1, keyAllowed := true }
  symbol 1 token

/-- A closing bracket or brace. -/
def closing (token : Token) : Lex Unit := do
  dropKey
  let state ← get
  if state.depth = 0 then failure
  set { state with depth := state.depth - 1, keyAllowed := false }
  symbol 1 token

/-- The dash in front of an item. -/
def dash : Lex Unit := do
  if (← get).depth = 0 then openHere .listStart
  allowKey true
  dropKey
  symbol 1 .item

/-- The mark in front of a key that is given as such. -/
def keyMark : Lex Unit := do
  let inBlock := (← get).depth = 0
  if inBlock then openHere .tableStart
  allowKey inBlock
  dropKey
  symbol 1 .key

/-- The colon in front of a value. If there was a node that could be a key, it is one. -/
def colon : Lex Unit := do
  let state ← get
  match state.keys.lookup state.depth with
  | some key =>
    let tokens := state.tokens.extract 0 key.position ++ #[Token.key] ++
      state.tokens.extract key.position state.tokens.size
    set { state with
      tokens, keyAllowed := false, keys := state.keys.filter (·.1 ≠ state.depth) }
    if state.depth = 0 then openBlock key.start.column key.position .tableStart
  | none =>
    let inBlock := state.depth = 0
    if inBlock then openHere .tableStart
    allowKey inBlock
    dropKey
  symbol 1 .value

/-- A node, or a property of one, that could be a key. -/
def node (reading : Scan Token) : Lex Unit := do
  noteKey
  allowKey false
  emit (← scan reading)

/-- A plain scalar. A key can follow on another line. -/
def plainNode : Lex Unit := do
  noteKey
  let state ← get
  let (text, broken) ← scan (plain (state.depth ≠ 0) state.margin)
  allowKey broken
  emit (.scalar true (String.ofList text))

/-- A block scalar. -/
def blockNode : Lex Unit := do
  allowKey true
  dropKey
  let text ← scan (block (← get).margin)
  emit (.scalar false (String.ofList text))

/-- A scalar in quotes. -/
def quotedNode (quote : Char) : Lex Unit :=
  node do return .scalar false (String.ofList (← quoted quote))

/-- Marks that no plain scalar starts with. -/
def isMark (c : Char) : Bool :=
  "-?:,[]\x7b\x7d#&*!|>'\"%@`".toList.contains c

/-- Whether a plain scalar can start with a character that is followed by another. -/
def startsPlain (inFlow : Bool) (c : Char) (next : Option Char) : Bool :=
  !(isBlank c || isBreak c || isMark c) ||
    (!endsWord next && (c == '-' || (!inFlow && (c == '?' || c == ':'))))

/-- The token that starts with a character. -/
def dispatch (c : Char) : Lex Unit := do
  let state ← get
  let place := state.place
  let next := place.rest[1]?
  let inFlow := state.depth != 0
  let atLineStart := place.column = 0
  if atLineStart ∧ c = '%' then
    closeAll
    dropKey
    allowKey false
    emit (← scan directive)
  else if atLineStart ∧ place.atStart then boundary .documentStart
  else if atLineStart ∧ place.atFinish then boundary .documentEnd
  else if c = '[' then opening .bracketOpen
  else if c = '\x7b' then opening .braceOpen
  else if c = ']' then closing .bracketClose
  else if c = '\x7d' then closing .braceClose
  else if c = ',' then
    allowKey true
    dropKey
    symbol 1 .comma
  else if c = '-' ∧ endsWord next then dash
  else if c = '?' ∧ (inFlow ∨ endsWord next) then keyMark
  else if c = ':' ∧ (inFlow ∨ endsWord next) then colon
  else if c = '*' then node (return .alias (← name))
  else if c = '&' then node (return .anchor (← name))
  else if c = '!' then node tag
  else if (c = '|' ∨ c = '>') ∧ !inFlow then blockNode
  else if c = '\x27' ∨ c = '\x22' then quotedNode c
  else if startsPlain inFlow c next then plainNode
  else failure

/-- The tokens up to the end of the document. No token is without characters, but for those that
indentation stands for. -/
def tokens : Nat → Lex Unit
  | 0 => failure
  | allowance + 1 => do
    let broken ← scan toToken
    if broken && (← get).depth = 0 then allowKey true
    dropStaleKeys
    closeBlocks (← get).place.column
    match (← get).place.rest with
    | [] =>
      closeAll
      dropKey
    | c :: _ =>
      dispatch c
      tokens allowance

end Lex

/-- The tokens of a document. -/
def Token.ofText? (text : List Char) : Option (List Token) :=
  if text.all isLegible then
    ((Lex.tokens (text.length + 1)).run { place := ⟨text, 0, 0, 0⟩ }).map
      fun (_, state) => state.tokens.toList
  else none

end Document

end Chip8
