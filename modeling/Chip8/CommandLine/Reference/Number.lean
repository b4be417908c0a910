import Chip8.CommandLine.Value
import Chip8.Text.Literal

/-!
# Numbers in references

A word can be a number. Whole numbers have no needless zero in front; single underscores may stand
between digits. A number with a point or a power of ten is a binary number, and so are `inf` and
`nan` in either case.
-/

namespace Chip8

namespace Reference

/-- Digits with single underscores between them, without the underscores. -/
def digits? (cs : List Char) : Option (List Char) := do
  let digits ← Literal.ungroup? cs
  if digits.all Char.isDigit then some digits else none

/-- The digits of a whole number: a single zero, or no zero in front. -/
def wholeDigits? (cs : List Char) : Option (List Char) :=
  match cs with
  | ['0'] => some cs
  | '0' :: _ => none
  | _ => digits? cs

/-- The digits in front of and after a point. One side may be empty, but not both. -/
def pointed? (cs : List Char) : Option (List Char × List Char) := do
  match cs.span (· != '.') with
  | ([], '.' :: fraction) => some ([], ← digits? fraction)
  | (front, ['.']) => some (← wholeDigits? front, [])
  | (front, '.' :: fraction) => some (← wholeDigits? front, ← digits? fraction)
  | _ => none

/-- A power of ten. -/
def power? (cs : List Char) : Option Int := do
  let (negative, rest) := Literal.signed cs
  let magnitude := Literal.valueOfDigits (← digits? rest)
  return if negative then -(magnitude : Int) else magnitude

/-- A number with a point or a power of ten. -/
def binary? (negative : Bool) (cs : List Char) : Option Binary :=
  match cs.span fun c => c != 'e' && c != 'E' with
  | (mantissa, []) => do
    let (front, fraction) ← pointed? mantissa
    return Literal.decimal negative front fraction 0
  | (mantissa, _ :: exponent) => do
    let (front, fraction) ← pointed? mantissa <|> (wholeDigits? mantissa).map (·, [])
    return Literal.decimal negative front fraction (← power? exponent)

/-- The number that a word is. -/
def numberOf? (word : List Char) : Option Scalar :=
  let (negative, rest) := Literal.signed word
  match (String.ofList rest).toLower with
  | "inf" => some (.number (.infinite negative))
  | "nan" => some (.number .notANumber)
  | _ =>
    match wholeDigits? rest with
    | some digits =>
      let magnitude := Literal.valueOfDigits digits
      some (.integer (if negative then -(magnitude : Int) else magnitude))
    | none => (binary? negative rest).map .number

end Reference

end Chip8
