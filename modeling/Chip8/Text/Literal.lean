import Chip8.Binary
import Chip8.Capacity
import Chip8.Text.DecimalDigit
import Chip8.Text.Pieces

/-!
# Numbers in texts

A whole number can be given as a text: digits of any script with single underscores between them, a
sign in front, and blanks around them. Digits of a radix other than ten may follow its mark, such as
`0x`. Decimal numbers of very many digits are refused unread, whatever follows the digits.

A number with a fraction has a point, a power of ten, or both; or it is infinite or not a number at
all, in words.
-/

namespace Chip8

namespace Literal

/-- The characters without the blanks at either end. -/
def trim (cs : List Char) : List Char :=
  ((cs.dropWhile Text.isNarrowBlank).reverse.dropWhile Text.isNarrowBlank).reverse

/-- Digits without the underscores between them; none if an underscore is not between digits. -/
def ungroup? (cs : List Char) : Option (List Char) :=
  let groups := Text.pieces '_' cs
  if groups.any List.isEmpty then none else some groups.flatten

/-- The sign of a number, and the rest of it. -/
def signed : List Char → Bool × List Char
  | '-' :: rest => (true, rest)
  | '+' :: rest => (false, rest)
  | rest => (false, rest)

/-- The characters as ASCII, up to the first that is no part of a number. -/
def narrowed : List Char → List Char
  | [] => []
  | c :: rest =>
    match Text.narrow? c with
    | some d => d :: narrowed rest
    | none => ['?']

/-! ## Whole numbers -/

/-- The letter that marks a radix after a zero. -/
def mark? : Radix → Option Char
  | .binary => some 'b'
  | .octal => some 'o'
  | .decimal => none
  | .hexadecimal => some 'x'

/-- The digits after the mark of a radix, if it is there. An underscore may follow it. -/
def unmarked (r : Radix) (cs : List Char) : List Char :=
  match cs with
  | '0' :: letter :: rest =>
    if mark? r = some letter.toLower then
      match rest with
      | '_' :: digits => digits
      | digits => digits
    else cs
  | _ => cs

/-- A number at the front of a text, and what follows it. -/
structure Front where
  negative : Bool
  digits : List Char
  rest : List Char

/-- The number at the front of a text in ASCII. -/
def front? (r : Radix) (cs : List Char) : Option Front := do
  let (negative, rest) := signed (cs.dropWhile Text.isNarrowBlank)
  let (run, rest) := (unmarked r rest).span fun c => c == '_' || (r.digit? c).isSome
  return ⟨negative, ← ungroup? run, rest⟩

/-- The number that is all there is in a text, blanks apart. -/
def Front.whole? (r : Radix) (front : Front) : Option Int := do
  if !front.rest.all Text.isNarrowBlank then none
  let magnitude ← Numeral.magnitude? r front.digits
  return if front.negative then -(magnitude : Int) else magnitude

/-- The number that characters denote. -/
def read? (r : Radix) (cs : List Char) : Option Int := do
  (← front? r (narrowed cs)).whole? r

/-- The decimal number that characters in ASCII denote, which are shown as `quoted` if there is
none. -/
def integerOf (quoted : String) (cs : List Char) : Except Fault Int :=
  match front? .decimal cs with
  | none => .error (.badInteger quoted)
  | some front =>
    if Capacity.digitLimit < front.digits.length then .error (.tooManyDigits front.digits.length)
    else
      match front.whole? .decimal with
      | some n => .ok n
      | none => .error (.badInteger quoted)

/-- The decimal number that a text denotes. -/
def integer (text : String) : Except Fault Int :=
  integerOf (Text.quoted text) (narrowed text.toList)

/-- The decimal number that bytes denote as ASCII characters. -/
def integerOfBytes (bytes : List UInt8) : Except Fault Int :=
  integerOf (Text.quotedBytes (bytes.take quotedLimit))
    (bytes.map fun byte => Char.ofNat byte.toNat)

/-! ## Numbers with a fraction -/

/-- The value of a run of decimal digits. -/
def valueOfDigits (digits : List Char) : Nat :=
  (Numeral.magnitude? .decimal digits).getD 0

/-- The number of digits around a point and a power of ten. -/
def decimal (negative : Bool) (front fraction : List Char) (power : Int) : Binary :=
  Binary.ofDecimal negative (valueOfDigits (front ++ fraction)) (power - fraction.length)

/-- A power of ten after its letter; none is the power zero. -/
def power? : List Char → Option Int
  | [] => some 0
  | letter :: rest =>
    let (negative, digits) := signed rest
    if letter.toLower = 'e' ∧ digits.all Char.isDigit then
      (Numeral.magnitude? .decimal digits).map fun m => if negative then -(m : Int) else m
    else none

/-- The number that characters denote, which may have a fraction. -/
def real? (cs : List Char) : Option Binary :=
  let (negative, rest) := signed (trim (narrowed cs))
  match (String.ofList rest).toLower with
  | "inf" | "infinity" => some (.infinite negative)
  | "nan" => some .notANumber
  | _ =>
    let (front, rest) := rest.span Char.isDigit
    let (fraction, rest) :=
      match rest with
      | '.' :: more => more.span Char.isDigit
      | _ => ([], rest)
    if front.isEmpty && fraction.isEmpty then none
    else (power? rest).map (decimal negative front fraction)

end Literal

end Chip8
