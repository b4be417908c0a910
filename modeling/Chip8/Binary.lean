import Chip8.Precision

/-!
# Binary numbers

Numbers with a fraction are binary numbers of double precision: `significand * 2 ^ exponent` with a
significand of at most 53 bits, or infinite, or not a number at all. Every ratio of whole numbers
has a nearest one; a ratio halfway between two goes to the one with the even significand, and one
that is too large is infinite.

Whatever is asked of a finite number is answered by the exact ratio that it is.
-/

namespace Chip8

/-- Binary numbers of double precision. Zero has a sign. -/
inductive Binary where
  | notANumber
  | infinite (negative : Bool)
  | finite (negative : Bool) (significand : Nat) (exponent : Int)
deriving DecidableEq, Repr

namespace Binary

/-- The least exponent. -/
def leastExponent : Int := -1074

/-- The greatest exponent. -/
def greatestExponent : Int := 971

/-- The ratio with its denominator multiplied by a power of two, which may have a negative exponent.
-/
def shifted (numerator denominator : Nat) (exponent : Int) : Nat × Nat :=
  (numerator * Nat.pow 2 (-exponent).toNat, denominator * Nat.pow 2 exponent.toNat)

/-- The exponent of the greatest power of two that is no more than a positive ratio. -/
def order (numerator denominator : Nat) : Int :=
  let guess : Int := (numerator.log2 : Int) - denominator.log2
  let (n, d) := shifted numerator denominator guess
  if d ≤ n then guess else guess - 1

/-- The number nearest to a ratio. -/
def ofRatio (negative : Bool) (numerator denominator : Nat) : Binary :=
  if numerator = 0 then .finite negative 0 leastExponent
  else
    let last : Int := Precision.significantBits - 1
    let exponent := max leastExponent (order numerator denominator - last)
    let (n, d) := shifted numerator denominator exponent
    let significand := Precision.roundQuotient n d
    let full := Nat.pow 2 Precision.significantBits
    let (significand, exponent) :=
      if significand = full then (full / 2, exponent + 1) else (significand, exponent)
    if greatestExponent < exponent then .infinite negative
    else .finite negative significand exponent

/-- The number nearest to a decimal, `digits * 10 ^ exponent`. Decimals that are far out of range
are told by their length alone. -/
def ofDecimal (negative : Bool) (digits : Nat) (exponent : Int) : Binary :=
  let magnitude := (Nat.toDigits 10 digits).length + exponent
  if digits = 0 ∨ magnitude < -400 then .finite negative 0 leastExponent
  else if 400 < magnitude then .infinite negative
  else ofRatio negative (digits * Nat.pow 10 exponent.toNat) (Nat.pow 10 (-exponent).toNat)

/-- A finite number as the ratio that it is. -/
def ratio? : Binary → Option (Int × Nat)
  | .finite negative significand exponent =>
    let (n, d) := shifted significand 1 (-exponent)
    some (if negative then -(n : Int) else n, d)
  | _ => none

/-- Whether a number is zero. -/
def isZero : Binary → Bool
  | .finite _ significand _ => significand == 0
  | _ => false

/-- Whether a number is greater than a whole number. -/
def exceeds (r : Binary) (n : Int) : Bool :=
  match r with
  | .notANumber => false
  | .infinite negative => !negative
  | .finite .. => r.ratio?.any fun (numerator, denominator) => n * denominator < numerator

/-- The whole number that a number is, if it is one. -/
def whole? (r : Binary) : Option Int :=
  r.ratio?.bind fun (numerator, denominator) =>
    if numerator % denominator = 0 then some (numerator / denominator) else none

/-- A finite number without its fraction. -/
def truncate? (r : Binary) : Option Int :=
  r.ratio?.map fun (numerator, denominator) => numerator.tdiv denominator

/-- The number nearest to the sum with a natural number. -/
def add (r : Binary) (n : Nat) : Binary :=
  match r.ratio? with
  | some (numerator, denominator) =>
    let sum := numerator + n * denominator
    ofRatio (sum < 0) sum.natAbs denominator
  | none => r

/-- The number with the other sign. -/
def negate : Binary → Binary
  | .notANumber => .notANumber
  | .infinite negative => .infinite !negative
  | .finite negative significand exponent => .finite (!negative) significand exponent

/-- The number nearest to a sum. A sum of zero has no sign. -/
def sum (a b : Binary) : Binary :=
  match a, b with
  | .notANumber, _ | _, .notANumber => .notANumber
  | .infinite m, .infinite n => if m = n then .infinite m else .notANumber
  | .infinite m, .finite .. => .infinite m
  | .finite .., .infinite n => .infinite n
  | .finite m s e, .finite n t f =>
    let (p, q) := shifted s 1 (-e)
    let (u, v) := shifted t 1 (-f)
    let first : Int := if m then -(p * v : Nat) else (p * v : Nat)
    let second : Int := if n then -(u * q : Nat) else (u * q : Nat)
    ofRatio (first + second < 0) (first + second).natAbs (q * v)

/-- The number nearest to a multiple by a finite number greater than zero, given as a ratio. -/
def scale (r : Binary) (numerator denominator : Nat) : Binary :=
  match r with
  | .finite negative significand exponent =>
    let (n, d) := shifted significand 1 (-exponent)
    ofRatio negative (n * numerator) (d * denominator)
  | _ => r

end Binary

end Chip8
