import Chip8.Text.Pieces

/-!
# Kinds of nodes

Every node of a document has a kind, which says what is made of it. A tag names the kind. Without
one, lists and tables are what they look like, scalars in quotes are texts, and a plain scalar has
the kind that its spelling suggests: nothing, a truth value, a number, or else a text. Numbers can
have underscores among their digits and can be given in the base of sixty, as times and angles are,
with colons between the places.

Two spellings have a meaning as keys: `<<` takes over the entries of other tables, and `=` stands
for the value of the table that holds it.
-/

namespace Chip8

namespace Document

/-- What is to be made of a node. -/
inductive Kind where
  | null
  | truth
  | integer
  | number
  | bytes
  | text
  | list
  | table
  /-- A list of tables with one entry each, taken as pairs. -/
  | pairs
  /-- A list of names that make up a path. -/
  | path
  /-- A key under which tables are taken over. -/
  | merge
  /-- A key that stands for the table that holds it. -/
  | default
  /-- Nothing that a configuration can hold. -/
  | foreign
deriving DecidableEq, Repr

namespace Kind

/-- What the tags of the common kinds start with. -/
def commonTag : String := "tag:yaml.org,2002:"

/-- The common kinds by the last part of their tags. Paths are tagged with the call that makes one.
-/
def common : List (String × Kind) :=
  [("null", .null), ("bool", .truth), ("int", .integer), ("float", .number), ("binary", .bytes),
    ("str", .text), ("seq", .list), ("map", .table), ("omap", .pairs), ("pairs", .pairs),
    ("merge", .merge), ("value", .default),
    ("python/object/apply:pathlib.Path", .path),
    ("python/object/apply:pathlib.PosixPath", .path)]

/-- The kind that a tag names. -/
def ofTag (tag : String) : Kind :=
  let named := common.find? fun (name, _) => commonTag ++ name = tag
  (named.map Prod.snd).getD .foreign

/-! ## Spellings -/

/-- The spellings of nothing. -/
def nullWords : List String := ["", "~", "null", "Null", "NULL"]

/-- The spellings of truth values. -/
def truthWords : List String :=
  ["yes", "Yes", "YES", "no", "No", "NO", "true", "True", "TRUE", "false", "False", "FALSE",
    "on", "On", "ON", "off", "Off", "OFF"]

/-- The spellings of an infinite number after its sign. -/
def infiniteWords : List String := [".inf", ".Inf", ".INF"]

/-- The spellings of what is not a number. -/
def notANumberWords : List String := [".nan", ".NaN", ".NAN"]

/-- Digits and the underscores among them. -/
def isDigitOrGap (c : Char) : Bool :=
  c.isDigit || c == '_'

/-- Whether there are digits, of a kind, or underscores, at least one. -/
def areDigits (ofKind : Char → Bool) (cs : List Char) : Bool :=
  !cs.isEmpty && cs.all fun c => ofKind c || c == '_'

/-- Whether characters are a place in the base of sixty: one digit, or two up to fifty-nine. -/
def isSixtieth : List Char → Bool
  | [d] => d.isDigit
  | [c, d] => '0' ≤ c && c ≤ '5' && d.isDigit
  | _ => false

/-- Whether characters are places in the base of sixty, each after a colon; at least one. -/
def areSixtieths : List Char → Bool
  | ':' :: rest => (Text.pieces ':' rest).all isSixtieth
  | _ => false

/-- Whether characters are a power of ten, with a sign where one is needed. -/
def isPower (signNeeded : Bool) : List Char → Bool
  | letter :: rest =>
    let digits :=
      match rest with
      | '+' :: digits | '-' :: digits => digits
      | digits => if signNeeded then [] else digits
    (letter == 'e' || letter == 'E') && !digits.isEmpty && digits.all Char.isDigit
  | [] => false

/-- The characters after a sign, if there is one. -/
def unsigned : List Char → List Char
  | '+' :: rest | '-' :: rest => rest
  | cs => cs

/-- Whether characters without a sign spell a whole number. -/
def isWhole : List Char → Bool
  | ['0'] => true
  | '0' :: 'b' :: rest => areDigits (fun c => c == '0' || c == '1') rest
  | '0' :: 'x' :: rest =>
    areDigits (fun c => c.isDigit || ('a' ≤ c.toLower && c.toLower ≤ 'f')) rest
  | '0' :: rest => areDigits (fun c => '0' ≤ c && c ≤ '7') rest
  | c :: rest =>
    let places := rest.dropWhile isDigitOrGap
    c.isDigit && (places.isEmpty || areSixtieths places)
  | [] => false

/-- Whether characters without a sign, that start with a digit, spell a number with a fraction. -/
def isReal (cs : List Char) : Bool :=
  cs.head?.any Char.isDigit &&
    match cs.dropWhile isDigitOrGap with
    | '.' :: rest =>
      let power := rest.dropWhile isDigitOrGap
      power.isEmpty || isPower false power
    | ':' :: rest =>
      let (places, fraction) := (':' :: rest).span (· != '.')
      areSixtieths places && !fraction.isEmpty && (fraction.drop 1).all isDigitOrGap
    | rest => isPower false rest

/-- Whether characters spell a number that starts with its point. -/
def isFraction : List Char → Bool
  | '.' :: d :: rest =>
    let power := rest.dropWhile isDigitOrGap
    d.isDigit && (power.isEmpty || isPower true power)
  | _ => false

/-- The kind that a spelling suggests. -/
def ofWord (word : List Char) : Kind :=
  let s := String.ofList word
  let magnitude := unsigned word
  if nullWords.contains s then .null
  else if truthWords.contains s then .truth
  else if isWhole magnitude then .integer
  else if isReal magnitude || isFraction word || notANumberWords.contains s ||
      infiniteWords.contains (String.ofList magnitude) then .number
  else if s = "<<" then .merge
  else if s = "=" then .default
  else .text

/-- The kind of a scalar without a tag that is not in quotes. A line break at its end makes no
difference. -/
def ofPlain (text : List Char) : Kind :=
  match text.reverse with
  | '\n' :: c :: rest => ofWord (c :: rest).reverse
  | _ => ofWord text

end Kind

end Document

end Chip8
