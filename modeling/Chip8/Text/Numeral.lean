/-!
# Numerals

Integers are written in one of four radices: a minus sign if the value is negative, zeros up to a
least width, then the digits of the absolute value. The sign counts towards the width and a value
that needs more room is never cut, so `-2` in four hexadecimal columns is `-002`.

`Numeral.read?` goes the other way. It takes any number of leading zeros, which is what makes it a
reader of every width at once.
-/

namespace Chip8

/-- The radices in which numbers are written. -/
inductive Radix where
  | binary
  | octal
  | decimal
  | hexadecimal
deriving DecidableEq, Repr

/-- How many digits a radix has. -/
def Radix.base : Radix → Nat
  | .binary => 2
  | .octal => 8
  | .decimal => 10
  | .hexadecimal => 16

/-- Every radix has at least the digits zero and one. -/
theorem Radix.one_lt_base (r : Radix) : 1 < r.base := by
  cases r <;> decide

/-- The value of a digit of the radix, letters in either case. -/
def Radix.digit? (r : Radix) (c : Char) : Option Nat :=
  let value :=
    if '0' ≤ c ∧ c ≤ '9' then c.toNat - '0'.toNat
    else if 'a' ≤ c ∧ c ≤ 'f' then c.toNat - 'a'.toNat + 10
    else if 'A' ≤ c ∧ c ≤ 'F' then c.toNat - 'A'.toNat + 10
    else r.base
  if value < r.base then some value else none

namespace Numeral

/-- The sign in front of the digits: nothing for a value that is not negative. -/
def sign (n : Int) : List Char :=
  if n < 0 then ['-'] else []

/-- The digits of the absolute value, the most significant first; zero has the one digit `0`. -/
def digits (r : Radix) (n : Int) : List Char :=
  Nat.toDigits r.base n.natAbs

/-- The characters of `n` in at least `width` columns. -/
def chars (r : Radix) (width : Nat) (n : Int) : List Char :=
  sign n ++ List.replicate (width - (sign n).length - (digits r n).length) '0' ++ digits r n

/-- The text of `n` in at least `width` columns. -/
def render (r : Radix) (width : Nat) (n : Int) : String :=
  String.ofList (chars r width n)

/-- The decimal text of `n`, as wide as its digits. -/
def decimal (n : Int) : String :=
  render .decimal 0 n

/-- The hexadecimal text of `n` after its mark `0x`, which the width does not count. -/
def hex (width : Nat) (n : Int) : String :=
  "0x" ++ render .hexadecimal width n

/-- The number that a run of digits denotes; an empty run denotes none. -/
def magnitude? (r : Radix) : List Char → Option Nat
  | [] => none
  | c :: rest => (c :: rest).foldlM (fun value d => (r.digit? d).map (r.base * value + ·)) 0

/-- The integer that a sign and a run of digits denote. -/
def read? (r : Radix) : List Char → Option Int
  | '-' :: rest => (magnitude? r rest).map fun m => -(m : Int)
  | cs => (magnitude? r cs).map fun m => (m : Int)

end Numeral

end Chip8
