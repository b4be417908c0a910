import Chip8.Text.Literal
import Chip8.CommandLine.Value

/-!
# References

A text of a configuration can refer to other values. What it says is a phrase: constants, references
by path, calls of functions, and texts, lists and tables put together from them. A path and a
function's name may have parts that are given by references in turn.

Evaluation goes from left to right and ends at the first fault. A reference that is all there is
stands for the value itself, of whatever kind; put together with anything else it is shown as text.
-/

namespace Chip8

namespace Reference

/-- What a text with references says. -/
inductive Phrase where
  | constant (value : Scalar)
  /-- A text put together from parts. -/
  | joined (parts : List Phrase)
  | list (items : List Phrase)
  | table (keys : List Scalar) (items : List Phrase)
  /-- The value at a path. -/
  | node (path : List Phrase)
  | call (name arguments : List Phrase)

/-- A step down the tree: the value that it starts from and the key of the part that it leads to. -/
structure Step where
  key : String
  holder : Value

/-- The steps that lead to a value, the last one first. -/
abbrev Trail := List Step

/-- The path of a trail, from the root on. -/
def Trail.path (trail : Trail) : List String :=
  (trail.map Step.key).reverse

/-- A value and the trail that leads to it. -/
structure Found where
  value : Value
  trail : Trail

/-- What a phrase depends on: the trail to where it stands, what paths lead to, and what functions
give. -/
structure Scope where
  home : Trail
  find : String → Except Fault Found
  apply : String → List Value → Except Fault Found

namespace Phrase

/-- A constant text. -/
def ofText (s : String) : Phrase :=
  .constant (.text s)

/-- Whether a phrase is an empty text. -/
def isEmpty : Phrase → Bool
  | .constant (.text s) => s == ""
  | _ => false

/-- The phrase of a text in parts: a single part that is no constant stands for itself. -/
def ofParts (parts : List Phrase) : Phrase :=
  match parts.filter (!·.isEmpty) with
  | [.node path] => .node path
  | [.call name arguments] => .call name arguments
  | _ => .joined parts

/-- A constant, unless it is a number of too many digits. -/
def legible (value : Scalar) : Except Fault Scalar :=
  if value.isLegible then .ok value else .error .tooLongToShow

mutual

/-- The value that a phrase stands for. -/
def eval (scope : Scope) : Phrase → Except Fault Found
  | .constant value => do return ⟨.scalar (← legible value), scope.home⟩
  | .joined parts => do return ⟨.text (← evalText scope parts), scope.home⟩
  | .list items => do return ⟨.list .data (← evalAll scope items), scope.home⟩
  | .table keys items => do
    return ⟨Value.tableOf .data (← evalEntries scope keys items), scope.home⟩
  | .node path => do scope.find (← evalName scope path)
  | .call name arguments => do
    let name ← evalName scope name
    scope.apply name (← evalAll scope arguments)

/-- The values that phrases stand for. -/
def evalAll (scope : Scope) : List Phrase → Except Fault (List Value)
  | [] => .ok []
  | phrase :: rest => do
    let found ← eval scope phrase
    return found.value :: (← evalAll scope rest)

/-- The text that parts make up, each as it is shown. -/
def evalText (scope : Scope) : List Phrase → Except Fault String
  | [] => .ok ""
  | phrase :: rest => do
    let found ← eval scope phrase
    let first ← found.value.shown
    return first ++ (← evalText scope rest)

/-- The entries of a table, key by key. -/
def evalEntries (scope : Scope) : List Scalar → List Phrase → Except Fault (List (Scalar × Value))
  | key :: keys, phrase :: rest => do
    let key ← legible key
    let found ← eval scope phrase
    return (key, found.value) :: (← evalEntries scope keys rest)
  | _, _ => .ok []

/-- The path or the name that parts make up, each of which has to be a text. -/
def evalName (scope : Scope) : List Phrase → Except Fault String
  | [] => .ok ""
  | phrase :: rest => do
    match (← eval scope phrase).value with
    | .text s => return s ++ (← evalName scope rest)
    | _ => .error (.reference .keyNotText)

end

end Phrase

/-- Whether a text opens a reference, be it an escaped one. -/
def isOpened : List Char → Bool
  | '$' :: '\x7b' :: _ => true
  | _ :: rest => isOpened rest
  | [] => false

/-! ## Paths -/

/-- A key up to the next mark of a path. -/
def plainKey (cs : List Char) : List Char × List Char :=
  cs.span fun c => c != '.' && c != '['

/-- The keys of a path after its first one: each follows a dot or stands in brackets. What is
neither is passed over. -/
def laterKeys : Nat → List Char → List String
  | 0, _ => []
  | _, [] => []
  | fuel + 1, '.' :: rest =>
    let (key, rest) := plainKey rest
    String.ofList key :: laterKeys fuel rest
  | fuel + 1, '[' :: rest =>
    match rest.span fun c => c != ']' && c != '\n' with
    | (key, ']' :: after) => String.ofList key :: laterKeys fuel after
    | _ => laterKeys fuel rest
  | fuel + 1, _ :: rest => laterKeys fuel rest

/-- The keys of a path that does not start with a dot. The empty path has none. -/
def keysOf (path : List Char) : List String :=
  match plainKey path with
  | ([], []) => []
  | ([], rest) => laterKeys rest.length rest
  | (key, rest) => String.ofList key :: laterKeys rest.length rest

end Reference

end Chip8
