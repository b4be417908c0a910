import Chip8.Text.Literal
import Chip8.Text.Shortest
import Chip8.Viewer.Path

/-!
# Values of a configuration

A configuration is a tree. Its leaves are scalars: nothing, truth values, numbers, texts, bytes and
paths. Lists and tables hold further values. The text `???` marks a value that is yet to be given.

A value can be shown unless there is a number of very many digits in it.

Lists and tables are told apart by where they come from. The ones of the configuration, and the ones
made in its manner while references are followed, have parts that references can lead to and texts
that can hold references in turn. Mere data, such as a list that is handed to a function, is a leaf
as far as references go, and its texts are just texts.
-/

namespace Chip8

/-- A value without parts. -/
inductive Scalar where
  | null
  | truth (b : Bool)
  | integer (n : Int)
  | number (r : Binary)
  | text (s : String)
  | bytes (bs : List UInt8)
  /-- A path in normal form. -/
  | path (p : Path)
deriving DecidableEq, Repr

/-- Where a list or a table comes from. -/
inductive Origin where
  /-- It was given with the configuration. -/
  | given
  /-- It was made while references were followed. -/
  | made
  /-- It is no part of a configuration. -/
  | data
deriving DecidableEq, Repr

/-- A value of a configuration. -/
inductive Value where
  | scalar (s : Scalar)
  | list (origin : Origin) (items : List Value)
  | table (origin : Origin) (entries : List (Scalar × Value))
deriving Repr

namespace Scalar

/-- Whether a scalar has no more digits than a whole number in a text can have. -/
def isLegible : Scalar → Bool
  | .integer n => Capacity.IsShown n
  | _ => true

/-- A scalar as it is shown inside a list, where texts are quoted. -/
def quoted (s : Scalar) : Except Fault String :=
  if s.isLegible then .ok (form s) else .error .tooLongToShow
where
  /-- The form of a scalar, whatever its length. -/
  form : Scalar → String
    | .null => "None"
    | .truth true => "True"
    | .truth false => "False"
    | .integer n => Numeral.decimal n
    | .number r => Text.shortest r
    | .text s => Text.quoted s
    | .bytes bs => Text.quotedBytes bs
    | .path p => "PosixPath(" ++ Text.quoted p.shown ++ ")"

/-- Whether a scalar counts as true: it is neither nothing, nor false, nor zero, nor empty. A path
is never empty. -/
def holds : Scalar → Bool
  | .null => false
  | .truth b => b
  | .integer n => n != 0
  | .number r => !r.isZero
  | .text s => s != ""
  | .bytes bs => !bs.isEmpty
  | .path _ => true

/-- Whether a scalar can be a key in a configuration. -/
def isKey : Scalar → Bool
  | .null | .path _ => false
  | _ => true

/-- The whole number that a scalar is equal to, if there is one. -/
def whole? : Scalar → Option Int
  | .truth b => some (if b then 1 else 0)
  | .integer n => some n
  | .number r => r.whole?
  | _ => none

/-- Whether two scalars are the same key: numbers are compared by value, whatever their kind, and
what is not a number differs even from itself. -/
def sameKey (a b : Scalar) : Bool :=
  match a.whole?, b.whole? with
  | some m, some n => m == n
  | none, none => a == b && a != .number .notANumber
  | _, _ => false

end Scalar

namespace Value

instance : Inhabited Value := ⟨.scalar .null⟩

/-- A text. -/
@[match_pattern] def text (s : String) : Value := .scalar (.text s)

/-- No value. -/
@[match_pattern] def null : Value := .scalar .null

/-- The mark of a value that is yet to be given. -/
def unsetMark : String := "???"

/-- Whether a value is yet to be given. -/
def isUnset : Value → Bool
  | .text s => s == unsetMark
  | _ => false

/-- Whether a value counts as true. -/
def holds : Value → Bool
  | .scalar s => s.holds
  | .list _ items => !items.isEmpty
  | .table _ entries => !entries.isEmpty

mutual

/-- A value as it is shown inside a list, where texts are quoted. -/
def quoted : Value → Except Fault String
  | .scalar s => s.quoted
  | .list _ items => do
    return "[" ++ ", ".intercalate (← quotedItems items) ++ "]"
  | .table _ entries => do
    return "\x7b" ++ ", ".intercalate (← quotedEntries entries) ++ "\x7d"

/-- The values of a list as they are shown. -/
def quotedItems : List Value → Except Fault (List String)
  | [] => .ok []
  | item :: rest => do
    let first ← quoted item
    return first :: (← quotedItems rest)

/-- The entries of a table as they are shown. -/
def quotedEntries : List (Scalar × Value) → Except Fault (List String)
  | [] => .ok []
  | (key, value) :: rest => do
    let key ← key.quoted
    let value ← quoted value
    return (key ++ ": " ++ value) :: (← quotedEntries rest)

end

/-- A value as it is shown on its own or as a part of a text. -/
def shown : Value → Except Fault String
  | .text s => .ok s
  | .scalar (.path p) => .ok p.shown
  | value => value.quoted

mutual

/-- All texts in a value, in order. -/
def texts : Value → List String
  | .text s => [s]
  | .scalar _ => []
  | .list _ items => textsOfItems items
  | .table _ entries => textsOfEntries entries

/-- All texts in the values of a list. -/
def textsOfItems : List Value → List String
  | [] => []
  | item :: rest => texts item ++ textsOfItems rest

/-- All texts in the values of a table. -/
def textsOfEntries : List (Scalar × Value) → List String
  | [] => []
  | (_, value) :: rest => texts value ++ textsOfEntries rest

end

mutual

/-- A value with all its lists and tables of a new origin. -/
def ofOrigin (origin : Origin) : Value → Value
  | .scalar s => .scalar s
  | .list _ items => .list origin (itemsFrom origin items)
  | .table _ entries => .table origin (entriesFrom origin entries)

/-- The values of a list, of a new origin. -/
def itemsFrom (origin : Origin) : List Value → List Value
  | [] => []
  | item :: rest => item.ofOrigin origin :: itemsFrom origin rest

/-- The entries of a table, of a new origin. -/
def entriesFrom (origin : Origin) : List (Scalar × Value) → List (Scalar × Value)
  | [] => []
  | (key, value) :: rest => (key, value.ofOrigin origin) :: entriesFrom origin rest

end

mutual

/-- All keys of the tables in a value. -/
def keys : Value → List Scalar
  | .scalar _ => []
  | .list _ items => keysOfItems items
  | .table _ entries => keysOfEntries entries

/-- All keys of the tables in the values of a list. -/
def keysOfItems : List Value → List Scalar
  | [] => []
  | item :: rest => keys item ++ keysOfItems rest

/-- The keys of a table and of the tables in its values. -/
def keysOfEntries : List (Scalar × Value) → List Scalar
  | [] => []
  | (key, value) :: rest => key :: keys value ++ keysOfEntries rest

end

/-- Entries with one of them replaced, in its place and under its old key, or added at the end if
there is none of that key. -/
def replace (key : Scalar) (value : Value) : List (Scalar × Value) → List (Scalar × Value)
  | [] => [(key, value)]
  | (k, v) :: rest =>
    if k.sameKey key then (k, value) :: rest else (k, v) :: replace key value rest

/-- The table of entries in which later ones replace earlier ones. -/
def tableOf (origin : Origin) (entries : List (Scalar × Value)) : Value :=
  .table origin (entries.foldl (fun table (key, value) => replace key value table) [])

end Value

end Chip8
