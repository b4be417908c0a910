/-!
# Binary precision

Times and ratios are kept as binary numbers with 53 significant bits and a magnitude below `2 ^
1024`. A whole number that needs more bits goes to the nearest one that does not, and one that lies
halfway between two goes to the one whose last significant bit is even.
-/

namespace Chip8

namespace Precision

/-- The number of significant bits. -/
def significantBits : Nat := 53

/-- The power of two that bounds every magnitude. -/
def bound : Nat := Nat.pow 2 1024

/-- The quotient to the nearest whole number; halfway between two, the even one. -/
def roundQuotient (dividend divisor : Nat) : Nat :=
  let quotient := dividend / divisor
  let rest := 2 * (dividend % divisor)
  if rest < divisor ∨ (rest = divisor ∧ quotient % 2 = 0) then quotient else quotient + 1

/-- The number nearest to `n` with no more than the significant bits. -/
def significant (n : Nat) : Nat :=
  let unit := Nat.pow 2 (n.log2 + 1 - significantBits)
  roundQuotient n unit * unit

/-- The integer nearest to `n` with no more than the significant bits. -/
def round (n : Int) : Int :=
  n.sign * significant n.natAbs

/-- Whether `n` parts of a unit, `parts` of which make the whole, stay below the bound once they are
rounded. -/
def inRange (parts : Nat) (n : Int) : Bool :=
  (round n).natAbs < bound * parts

end Precision

end Chip8
