import Chip8.CommandLine.Reference
import Chip8.CommandLine.Reference.Number

/-!
# Reading texts with references

A reference stands between `${` and `}`. It is a path, keys separated by dots or in brackets, with
leading dots if it starts at the holder of the text and not at the root; or it is the name of a
function, a colon, and arguments separated by commas. A key, a part of a function's name and an
argument can be references themselves.

Outside of references everything stands for itself, except that a backslash in front of `${` makes
it plain text, and that backslashes in front of a reference or of an escaped one are doubled. An
argument is a text in quotes, a list in brackets, a table in braces, or a word; a word in the form
of a number, a truth value or `null` is one.

The readers take an allowance of steps. Every step takes a character or leads to one that does, so
that an allowance in proportion to the text's length is never used up.
-/

namespace Chip8

namespace Reference

/-- Reading from the front of a text. -/
abbrev Reader := StateT (List Char) Option

namespace Reader

/-- Blanks, which may stand around most marks. -/
def isBlank (c : Char) : Bool :=
  c == ' ' || c == '\t'

/-- The characters of keys: all but those that have a meaning in a path. -/
def isKeyChar (c : Char) : Bool :=
  !"\\\x7b\x7d()[]:. \t'\"".toList.contains c

/-- The characters of words, other than blanks, colons and escapes. -/
def isWordChar (c : Char) : Bool :=
  c.isAlphanum || "_/-\\+.$%*@?|".toList.contains c

/-- The characters that a backslash escapes in a word. -/
def isEscapable (c : Char) : Bool :=
  "\\()[]\x7b\x7d:=, \t".toList.contains c

/-- Whether a key can be a part of a function's name. -/
def isName : List Char → Bool
  | [] => false
  | c :: rest =>
    (c.isAlpha || c == '_') && rest.all fun d => d.isAlphanum || d == '_' || d == '-'

/-- The longest run of characters of a kind. -/
def longest (ofKind : Char → Bool) : Reader (List Char) :=
  modifyGet fun cs => (cs.takeWhile ofKind, cs.dropWhile ofKind)

/-- Passes over blanks. -/
def skipBlanks : Reader Unit := do
  let _ ← longest isBlank

/-- The next character, which stays unread. -/
def peek : Reader (Option Char) := do
  return (← get).head?

/-- The next character. -/
def next : Reader Char := do
  match ← get with
  | [] => failure
  | c :: rest =>
    set rest
    return c

/-- Reads one certain character. -/
def mark (c : Char) : Reader Unit := do
  if (← next) ≠ c then failure

/-- Whether a reference follows. -/
def atReference : Reader Bool := do
  match ← get with
  | '$' :: '\x7b' :: _ => return true
  | _ => return false

/-- Opens a reference. -/
def opening : Reader Unit := do
  mark '$'
  mark '\x7b'

/-- What a word without references stands for. -/
def scalarOf (word : String) : Scalar :=
  match word.toLower with
  | "null" => .null
  | "true" => .truth true
  | "false" => .truth false
  | _ => (numberOf? word.toList).getD (.text word)

/-- A word without references as one text. -/
def plain? (parts : List Phrase) : Option String :=
  (parts.mapM textOf?).map String.join
where
  /-- The text of a part that is a constant one. -/
  textOf? : Phrase → Option String
    | .constant (.text s) => some s
    | _ => none

/-- The phrase of a word in parts. -/
def ofWord (parts : List Phrase) : Phrase :=
  match plain? parts with
  | some word => .constant (scalarOf word)
  | none => Phrase.ofParts parts

/-- A number of backslashes. -/
def backslashes (count : Nat) : List Char :=
  List.replicate count '\\'

/-- A constant text of characters. -/
def constant (cs : List Char) : Phrase :=
  Phrase.ofText (String.ofList cs)

mutual

/-- The parts of a text up to the quote that closes it, or up to its end if no quote opened it. -/
def parts (quote : Option Char) : Nat → Reader (List Phrase)
  | 0 => failure
  | fuel + 1 => do
    let slashes := (← longest (· == '\\')).length
    let half := backslashes (slashes / 2)
    let escaped := slashes % 2 == 1
    if ← atReference then
      if escaped then
        opening
        return constant (half ++ ['$', '\x7b']) :: (← parts quote fuel)
      else
        let inner ← reference fuel
        return constant half :: inner :: (← parts quote fuel)
    else if (← peek).isNone then
      if quote.isNone then return [constant (backslashes slashes)] else failure
    else
      let c ← next
      if some c ≠ quote then
        return constant (backslashes slashes ++ [c]) :: (← parts quote fuel)
      else if escaped then
        return constant (half ++ [c]) :: (← parts quote fuel)
      else
        return [constant half]

/-- A reference. -/
def reference : Nat → Reader Phrase
  | 0 => failure
  | fuel + 1 => do
    opening
    skipBlanks
    let dots ← longest (· == '.')
    let (first, name) ← start fuel
    let (rest, names) ← steps fuel
    skipBlanks
    let path := constant dots :: first ++ rest
    match ← next with
    | '\x7d' => return .node path
    | ':' =>
      if dots.isEmpty && name && names then
        skipBlanks
        return .call path (← items '\x7d' fuel)
      else failure
    | _ => failure

/-- A key, and whether it can be a part of a function's name. -/
def key : Nat → Reader (Phrase × Bool)
  | 0 => failure
  | fuel + 1 => do
    if ← atReference then
      return (← reference fuel, true)
    else
      let cs ← longest isKeyChar
      if cs.isEmpty then failure else return (constant cs, isName cs)

/-- The first key of a path. -/
def start : Nat → Reader (List Phrase × Bool)
  | 0 => failure
  | fuel + 1 => do
    if (← peek) == some '[' then
      step fuel
    else
      let (inner, name) ← key fuel
      return ([inner], name)

/-- A step of a path, with the marks around it. -/
def step : Nat → Reader (List Phrase × Bool)
  | 0 => failure
  | fuel + 1 => do
    match ← next with
    | '.' => do
      let (inner, name) ← key fuel
      return ([constant ['.'], inner], name)
    | '[' => do
      let (inner, _) ← key fuel
      mark ']'
      return ([constant ['['], inner, constant [']']], false)
    | _ => failure

/-- The steps of a path after its first key. -/
def steps : Nat → Reader (List Phrase × Bool)
  | 0 => failure
  | fuel + 1 => do
    match ← peek with
    | some '.' | some '[' => do
      let (first, name) ← step fuel
      let (rest, names) ← steps fuel
      return (first ++ rest, name && names)
    | _ => return ([], true)

/-- Items up to the mark that closes them. -/
def items (close : Char) : Nat → Reader (List Phrase)
  | 0 => failure
  | fuel + 1 => do
    if (← peek) == some close then
      mark close
      return []
    else
      moreItems close fuel

/-- At least one item, up to the mark that closes them. An item that is left out is empty. -/
def moreItems (close : Char) : Nat → Reader (List Phrase)
  | 0 => failure
  | fuel + 1 => do
    let leftOut := (← peek) == some ',' || (← peek) == some close
    let first ← if leftOut then pure (constant []) else item fuel
    skipBlanks
    let c ← next
    if c == ',' then
      skipBlanks
      return first :: (← moreItems close fuel)
    else if c == close then return [first]
    else failure

/-- An item. -/
def item : Nat → Reader Phrase
  | 0 => failure
  | fuel + 1 => do
    match ← peek with
    | some '\x27' => do
      mark '\x27'
      return .joined (← parts (some '\x27') fuel)
    | some '\x22' => do
      mark '\x22'
      return .joined (← parts (some '\x22') fuel)
    | some '[' => do
      mark '['
      skipBlanks
      return .list (← items ']' fuel)
    | some '\x7b' => do
      mark '\x7b'
      skipBlanks
      let (keys, values) ← entries fuel
      return .table keys values
    | _ => do
      let word ← word fuel
      if word.isEmpty then failure else return ofWord word

/-- The entries of a table up to its end. -/
def entries : Nat → Reader (List Scalar × List Phrase)
  | 0 => failure
  | fuel + 1 => do
    if (← peek) == some '\x7d' then
      mark '\x7d'
      return ([], [])
    else
      moreEntries fuel

/-- At least one entry of a table, up to its end. -/
def moreEntries : Nat → Reader (List Scalar × List Phrase)
  | 0 => failure
  | fuel + 1 => do
    let key ← tableKey fuel
    if key.isEmpty then failure
    mark ':'
    skipBlanks
    let value ← item fuel
    skipBlanks
    let key := scalarOf (String.ofList key)
    match ← next with
    | ',' => do
      skipBlanks
      let (keys, values) ← moreEntries fuel
      return (key :: keys, value :: values)
    | '\x7d' => return ([key], [value])
    | _ => failure

/-- The characters of a table's key, up to the colon after it. -/
def tableKey : Nat → Reader (List Char)
  | 0 => failure
  | fuel + 1 => do
    let blanks ← longest isBlank
    if ← atReference then failure
    match ← get with
    | ':' :: _ => return []
    | '\\' :: c :: rest => do
      if isEscapable c then
        set rest
        return blanks ++ c :: (← tableKey fuel)
      else
        set (c :: rest)
        return blanks ++ '\\' :: (← tableKey fuel)
    | c :: rest => do
      if isWordChar c then
        set rest
        return blanks ++ c :: (← tableKey fuel)
      else failure
    | [] => failure

/-- The parts of a word. Blanks in front of the mark that ends it are not among them. -/
def word : Nat → Reader (List Phrase)
  | 0 => failure
  | fuel + 1 => do
    if ← atReference then
      let inner ← reference fuel
      return inner :: (← word fuel)
    else
      let blanks ← longest isBlank
      match ← get with
      | '\\' :: c :: rest => do
        if isEscapable c then
          set rest
          return constant (blanks ++ [c]) :: (← word fuel)
        else
          set (c :: rest)
          return constant (blanks ++ ['\\']) :: (← word fuel)
      | ':' :: rest => do
        set rest
        let after ← longest isBlank
        return constant (blanks ++ ':' :: after) :: (← word fuel)
      | c :: rest => do
        if c == ',' || c == ']' || c == '\x7d' then return []
        else if (← atReference) then return constant blanks :: (← word fuel)
        else if isWordChar c then
          set rest
          return constant (blanks ++ [c]) :: (← word fuel)
        else failure
      | [] => return if blanks.isEmpty then [] else [constant blanks]

end

end Reader

/-- The allowance for reading a text. -/
def allowance (cs : List Char) : Nat :=
  4 * cs.length + 8

/-- What a text with references says, if every reference in it is complete. -/
def read? (text : String) : Option Phrase :=
  let cs := text.toList
  ((Reader.parts none (allowance cs)).run cs).map fun (parts, _) => Phrase.ofParts parts

/-- What a text says that is a single item, as the arguments of functions are. -/
def readItem? (text : String) : Option Phrase :=
  let cs := text.toList
  match (Reader.item (allowance cs)).run cs with
  | some (phrase, []) => some phrase
  | _ => none

end Reference

end Chip8
