import Chip8.Segment
import Chip8.Text.Numeral
import Chip8.Text.Quoted

/-!
# Faults

Everything that can go wrong, as causes that carry the values involved. The wording is in one place,
`Fault.message`. Three families have a type of their own because callers tell them apart as a whole:
an address that a listing cannot have (`AddressFault`), a place that an image does not hold
(`BoundsFault`), and a reference that stands for no value (`ReferenceFault`).
-/

namespace Chip8

/-- An address or a region that no listing can have. -/
inductive AddressFault where
  /-- A region that starts or ends inside a word. -/
  | misalignedRegion (base size : Int)
  /-- A region that starts below zero or after its end. -/
  | baseOutside (base size : Int)
  /-- A region that starts outside memory whose size is given as a truth value. -/
  | baseOutsideTruth (base : Int) (size : Bool)
  /-- An address before the first line. -/
  | belowBase (address base : Int)
  /-- An odd address. -/
  | misaligned (address : Int)
  /-- An address after the last line. -/
  | beyondEnd (address size : Int)
deriving DecidableEq, Repr

/-- A place that an image does not hold. -/
inductive BoundsFault where
  /-- A program that ends after the memory does. -/
  | programTooLong (length : Nat) (base : Int) (size : Nat)
  /-- A word of which some byte lies outside. -/
  | wordOutside (address : Int) (size : Nat)
  /-- An image that ends before the region does. -/
  | imageTooShort (size : Nat) (expected : Int)
deriving DecidableEq, Repr

/-- A reference in a setting that stands for no value. -/
inductive ReferenceFault where
  /-- References that come back to where they began. -/
  | circular
  /-- A reference to something that holds it. -/
  | toHolder
  /-- A path to nothing. -/
  | noSuchKey (path : String)
  /-- A reference to a value that is yet to be given. -/
  | toUnset (key : String)
  /-- A key that is given by a reference, but not as a text. -/
  | keyNotText
  /-- A step into a value that has no parts. -/
  | noParts (key : String)
  /-- A part of a list that is not asked for by its number. -/
  | notAnIndex (key : String)
  | unknownFunction (name : String)
  /-- Arguments that a function can make nothing of. -/
  | unsuitedArguments (function : String)
  /-- A reference to a text that cannot be read. -/
  | unreadable
deriving DecidableEq, Repr

/-- The causes of failure. -/
inductive Fault where
  | address (cause : AddressFault)
  | bounds (cause : BoundsFault)
  /-- A value outside 0 to 255 where a byte is stored. -/
  | notAByte (value : Int)
  /-- A program and the part of memory it is to fill differ in length. -/
  | partialStore (room length : Nat)
  /-- A size that no memory can have: it is negative, or no index reaches it. -/
  | noSize (size : Int)
  /-- An image of more bytes than there is memory for. -/
  | imageTooLarge (size : Nat)
  /-- A text of more characters than an index can count. -/
  | textBeyondIndex (length : Nat)
  /-- A text of more characters than there is memory for. -/
  | textTooLarge (length : Nat)
  /-- A list announced as having fewer than no items. -/
  | negativeLength (length : Int)
  /-- A list of more items than an index can count. -/
  | listBeyondIndex (length : Nat)
  /-- A list of more items than there is memory for. -/
  | listTooLarge (length : Nat)
  /-- An instant that is too far off to be kept in seconds. -/
  | instantOutOfRange (ticks : Int)
  /-- A number of expected items that is too large to measure progress by. -/
  | totalOutOfRange (total : Int)
  /-- Registers nested deeper than an array can be. -/
  | tooManyDimensions (count : Nat)
  /-- Registers that do not form one row of sixteen. -/
  | registerShape (shape : List Nat)
  /-- A snapshot without exactly sixteen registers. -/
  | registerCount (count : Nat)
  | unknownPalette (name : String)
  /-- Something that names no tag, as it is shown. -/
  | unknownTag (shown : String)
  /-- A colour channel that is no hexadecimal numeral. -/
  | badChannel (text : String)
  /-- A palette without a style for a tag in use. -/
  | missingStyle (tag : Tag)
  /-- A colour with fewer than three channels. -/
  | missingChannel (count : Nat)
  | unknownLevel (name : String)
  /-- A level that is no text. -/
  | levelNotText
  /-- A level that is a part of the configuration. -/
  | levelIsPart
  | reference (cause : ReferenceFault)
  /-- A text in which a reference is opened and not completed. -/
  | malformedReference (text : String)
  /-- A setting that is yet to be given. -/
  | unset (key : String)
  /-- A setting of the wrong kind. -/
  | unsuitable (key : String)
  /-- A table in the place of a list. -/
  | tableForList (key : String)
  /-- Something in quotes that denotes no number. -/
  | badInteger (quoted : String)
  /-- A number of more digits than are read. -/
  | tooManyDigits (count : Nat)
  /-- A number of more digits than are shown. -/
  | tooLongToShow
  /-- A number with a fraction where hexadecimal digits are to be shown. -/
  | fractionInHex
  /-- A whole number of what is not a number. -/
  | wholeOfNothing
  /-- A whole number of what is infinite. -/
  | wholeOfInfinity
  /-- Memory without a first extent. -/
  | noFirstExtent
  /-- An array with rows of different shapes; its shape up to there. -/
  | unevenArray (shape : List Nat)
  | fileNotFound (path : String)
  /-- A path that ends at a folder. -/
  | isFolder (path : String)
  /-- A path that goes on after a file. -/
  | notAFolder (path : String)
  /-- A path, or a name in it, that is longer than a path or a name can be. -/
  | nameTooLong (path : String)
  /-- A path with a null character in it. -/
  | nullInPath (path : String)
  /-- A run that names no ROM. -/
  | noRom
deriving DecidableEq, Repr

/-- What an address fault says. -/
def AddressFault.message : AddressFault → String
  | .misalignedRegion base size =>
    "Program region " ++ Numeral.hex 4 base ++ "-" ++ Numeral.hex 4 size ++ " is not word aligned"
  | .baseOutside base size =>
    "Program base " ++ Numeral.hex 4 base ++ " outside memory of " ++ Numeral.decimal size ++
      " bytes"
  | .baseOutsideTruth base size =>
    "Program base " ++ Numeral.hex 4 base ++ " outside memory of " ++
      (if size then "True" else "False") ++ " bytes"
  | .belowBase address base =>
    "Address " ++ Numeral.hex 4 address ++ " is below the program base " ++ Numeral.hex 4 base
  | .misaligned address =>
    "Address " ++ Numeral.hex 4 address ++ " is not word aligned"
  | .beyondEnd address size =>
    "Address " ++ Numeral.hex 4 address ++ " is beyond the end of the listing (" ++
      Numeral.hex 4 size ++ ")"

/-- What a bounds fault says. -/
def BoundsFault.message : BoundsFault → String
  | .programTooLong length base size =>
    "Program of " ++ Numeral.decimal length ++ " bytes does not fit at " ++ Numeral.hex 3 base ++
      " in " ++ Numeral.decimal size ++ " bytes of memory"
  | .wordOutside address size =>
    "Word at " ++ Numeral.hex 4 address ++ " lies outside " ++ Numeral.decimal size ++
      " bytes of memory"
  | .imageTooShort size expected =>
    "Memory image has " ++ Numeral.decimal size ++ " bytes, expected at least " ++
      Numeral.decimal expected

/-- What a reference fault says. -/
def ReferenceFault.message : ReferenceFault → String
  | .circular => "References lead in a circle"
  | .toHolder => "Reference to something that holds it"
  | .noSuchKey path => "Reference to nothing: " ++ path
  | .toUnset key => "Reference to a value not given: " ++ key
  | .keyNotText => "A key has to be a text"
  | .noParts key => "Nothing has a part " ++ key
  | .notAnIndex key => "A list has no part " ++ key
  | .unknownFunction name => "Unknown function " ++ name
  | .unsuitedArguments function => "Arguments do not suit the function " ++ function
  | .unreadable => "Reference to a text that cannot be read"

/-- The extents of an array in brackets; a single extent is followed by a comma, which tells it from
a number in brackets. -/
def shapeText : List Nat → String
  | [] => "()"
  | [extent] => "(" ++ Numeral.decimal extent ++ ",)"
  | extents => "(" ++ ", ".intercalate (extents.map fun (e : Nat) => Numeral.decimal e) ++ ")"

/-- How much is shown of what denotes no number. -/
def quotedLimit : Nat := 200

/-- What a fault says. -/
def Fault.message : Fault → String
  | .address cause => cause.message
  | .bounds cause => cause.message
  | .notAByte value => "Value " ++ Numeral.decimal value ++ " is not a byte"
  | .partialStore room length =>
    "Program of " ++ Numeral.decimal length ++ " bytes meets " ++ Numeral.decimal room ++
      " bytes of memory"
  | .noSize size => "Memory cannot have " ++ Numeral.decimal size ++ " bytes"
  | .imageTooLarge size => "No room for " ++ Numeral.decimal size ++ " bytes"
  | .textBeyondIndex length =>
    "A text cannot have " ++ Numeral.decimal length ++ " characters"
  | .textTooLarge length => "No room for " ++ Numeral.decimal length ++ " characters"
  | .negativeLength _ => "__len__() should return >= 0"
  | .listBeyondIndex length => "A list cannot have " ++ Numeral.decimal length ++ " items"
  | .listTooLarge length => "No room for " ++ Numeral.decimal length ++ " items"
  | .instantOutOfRange ticks => "Instant " ++ Numeral.decimal ticks ++ " is out of range"
  | .totalOutOfRange total => "Total " ++ Numeral.decimal total ++ " is out of range"
  | .tooManyDimensions _ =>
    "setting an array element with a sequence. " ++
      "The requested array would exceed the maximum number of dimension of 64."
  | .registerShape shape => "Expected 16 general registers, got shape " ++ shapeText shape
  | .registerCount count => "Expected 16 general registers, got " ++ Numeral.decimal count
  | .unknownPalette name =>
    "Unknown palette '" ++ name ++ "'. Available: ['monokai', 'mono']"
  | .unknownTag given => given ++ " is not a valid Tag"
  | .badChannel text => "invalid literal for int() with base 16: " ++ Text.quoted text
  | .missingStyle tag => "<Tag." ++ tag.capitals ++ ": '" ++ tag.name ++ "'>"
  | .missingChannel count => "Colour has " ++ Numeral.decimal count ++ " channels, expected three"
  | .unknownLevel name =>
    "Unknown log level '" ++ name ++
      "'. Available: ['DEBUG', 'INFO', 'WARNING', 'ERROR', 'CRITICAL']"
  | .levelIsPart => "A log level has to be a text"
  | .levelNotText => "A log level has to be a text"
  | .reference cause => cause.message
  | .malformedReference text => "Malformed reference: " ++ text
  | .unset key => "Setting not given: " ++ key
  | .unsuitable key => "Unsuitable setting: " ++ key
  | .tableForList key => "A list is expected: " ++ key
  | .badInteger quoted =>
    "invalid literal for int() with base 10: " ++ String.ofList (quoted.toList.take quotedLimit)
  | .tooManyDigits count =>
    "Exceeds the limit (4300 digits) for integer string conversion: value has " ++
      Numeral.decimal count ++
      " digits; use sys.set_int_max_str_digits() to increase the limit"
  | .tooLongToShow =>
    "Exceeds the limit (4300 digits) for integer string conversion; " ++
      "use sys.set_int_max_str_digits() to increase the limit"
  | .fractionInHex => "Unknown format code 'x' for object of type 'float'"
  | .wholeOfNothing => "cannot convert float NaN to integer"
  | .wholeOfInfinity => "cannot convert float infinity to integer"
  | .noFirstExtent => "Memory without extents"
  | .unevenArray shape =>
    "setting an array element with a sequence. The requested array has an inhomogeneous shape " ++
      "after " ++ Numeral.decimal shape.length ++ " dimensions. The detected shape was " ++
      shapeText shape ++ " + inhomogeneous part."
  | .fileNotFound path => "No such file: " ++ path
  | .isFolder path => "Is a folder: " ++ path
  | .notAFolder path => "Not a folder: " ++ path
  | .nameTooLong path => "Name too long: " ++ path
  | .nullInPath _ => "embedded null byte"
  | .noRom => "No ROM given, pass roms=[path/to/rom.ch8]"

/-- Of two steps that can fail, one after the other, something comes out if it does of both. -/
theorem Fault.bind_eq_ok_iff {α β : Type} {x : Except Fault α} {f : α → Except Fault β} {b : β} :
    (x >>= f) = .ok b ↔ ∃ a, x = .ok a ∧ f a = .ok b := by
  cases x with
  | error fault => simp [bind, Except.bind]
  | ok a => simp [bind, Except.bind]

end Chip8
