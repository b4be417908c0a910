import Chip8.Binary
import Chip8.Text.Numeral

/-!
# Binary numbers as text

A binary number is shown by the fewest decimal digits that read back as the number; of those, by the
ones nearest to it. Numbers from `0.0001` up to, and without, `10 ^ 16` are shown with all places up
to the point, others with a power of ten that has a sign and at least two digits.
-/

namespace Chip8

namespace Text

/-- Decimal digits and the number of places that they have in front of the point. -/
structure Digits where
  digits : Nat
  places : Int
deriving DecidableEq, Repr

namespace Digits

/-- How many digits there are. -/
def count (d : Digits) : Nat :=
  (Nat.toDigits 10 d.digits).length

/-- The binary number nearest to the digits. -/
def read (d : Digits) : Binary :=
  Binary.ofDecimal false d.digits (d.places - d.count)

end Digits

/-- The most digits that any number needs. -/
def mostDigits : Nat := 17

/-- How many places a positive ratio has in front of the point; none or fewer if it is below one. -/
def placesOf (numerator denominator : Nat) : Int :=
  let digits := (Nat.toDigits 10 (numerator / denominator)).length
  if denominator ≤ numerator then digits
  else
    let rec below : Nat → Nat → Int
      | 0, _ => 0
      | fuel + 1, n => if denominator ≤ 10 * n then 0 else below fuel (10 * n) - 1
    below 400 numerator

/-- The decimals of `count` digits next to a positive ratio, the nearer first. -/
def neighbours (numerator denominator count : Nat) : List Digits :=
  let places := placesOf numerator denominator
  let scale : Int := count - places
  let n := numerator * Nat.pow 10 scale.toNat
  let d := denominator * Nat.pow 10 (-scale).toNat
  let lower := n / d
  let rest := 2 * (n % d)
  let decimal (digits : Nat) : Digits :=
    ⟨digits, places + (Nat.toDigits 10 digits).length - count⟩
  if rest < d ∨ (rest = d ∧ lower % 2 = 0) then [decimal lower, decimal (lower + 1)]
  else [decimal (lower + 1), decimal lower]

/-- The fewest digits, from `count` on, that read back as the number. -/
def fewest (number : Binary) (numerator denominator count : Nat) : Nat → Digits
  | 0 => ⟨0, 1⟩
  | fuel + 1 =>
    match (neighbours numerator denominator count).find? fun d => d.read == number with
    | some digits => digits
    | none => fewest number numerator denominator (count + 1) fuel

/-- Digits without the zeros at their end. -/
def stripped (cs : List Char) : List Char :=
  (cs.reverse.dropWhile (· == '0')).reverse

/-- Digits around a point, with a zero on a side that would be empty. -/
def positional (digits : List Char) (places : Int) : List Char :=
  if places ≤ 0 then
    ['0', '.'] ++ List.replicate (-places).toNat '0' ++ digits
  else
    let front := digits.take places.toNat
    let rest := digits.drop places.toNat
    front ++ List.replicate (places.toNat - front.length) '0' ++ ['.'] ++
      (if rest.isEmpty then ['0'] else rest)

/-- Digits with a power of ten. -/
def scientific (digits : List Char) (places : Int) : List Char :=
  let exponent := places - 1
  let sign := if exponent < 0 then '-' else '+'
  digits.take 1 ++ (if digits.length ≤ 1 then [] else '.' :: digits.drop 1) ++ ['e', sign] ++
    Numeral.chars .decimal 2 exponent.natAbs

/-- Digits in the form that suits their places. -/
def laidOut (digits : List Char) (places : Int) : List Char :=
  if -4 < places ∧ places ≤ 16 then positional digits places else scientific digits places

/-- A binary number as text. -/
def shortest : Binary → String
  | .notANumber => "nan"
  | .infinite negative => if negative then "-inf" else "inf"
  | .finite negative significand exponent =>
    let cs :=
      if significand = 0 then "0.0".toList
      else
        let (n, d) := Binary.shifted significand 1 (-exponent)
        let found := fewest (.finite false significand exponent) n d 1 mostDigits
        laidOut (stripped (Nat.toDigits 10 found.digits)) found.places
    String.ofList (if negative then '-' :: cs else cs)

end Text

end Chip8
