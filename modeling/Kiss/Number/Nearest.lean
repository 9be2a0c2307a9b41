import Kiss.Number.Binary

/-!
# The nearest number

Rounding a ratio of natural numbers to a float: the nearest one wins, and of two that are
equally near the one with the even mantissa. Decimal and hexadecimal literals are read
through `nearest`, and so are the results of integer operations.
-/

namespace Kiss.Number

/-- The natural number nearest to `numerator / denominator`, a half going to the even
    neighbour. -/
def roundHalfEven (numerator denominator : Nat) : Nat :=
  let quotient := numerator / denominator
  let twice := 2 * (numerator % denominator)
  if twice < denominator then quotient
  else if denominator < twice then quotient + 1
  else quotient + quotient % 2

/-- A whole number is its own nearest: only a true ratio is rounded. -/
theorem roundHalfEven_mul (n : Nat) {denominator : Nat} (positive : 0 < denominator) :
    roundHalfEven (n * denominator) denominator = n := by
  simp [roundHalfEven, Nat.mul_div_cancel n positive, positive]

/-- The power of two at or below `numerator / denominator`, as an exponent; both are
    positive. -/
def binaryOrder (numerator denominator : Nat) : Int :=
  let estimate : Int := numerator.log2 - denominator.log2
  let reached :=
    denominator * Nat.pow 2 estimate.toNat ≤ numerator * Nat.pow 2 (-estimate).toNat
  if reached then estimate else estimate - 1

/-- The bits of the nonnegative float nearest to `numerator / denominator`. The exponent
    leaves 53 bits of mantissa, or fewer where it would fall below the least exponent. -/
def nearestBits (numerator denominator : Nat) : Nat :=
  if numerator = 0 then 0
  else
    let exponent := max minExponent (binaryOrder numerator denominator - 52)
    let mantissa :=
      roundHalfEven (numerator * Nat.pow 2 (-exponent).toNat)
        (denominator * Nat.pow 2 exponent.toNat)
    magnitudeBits mantissa exponent

/-- The float nearest to a ratio, with the given sign; zero keeps its sign. -/
def nearest (negative : Bool) (numerator denominator : Nat) : Float :=
  assemble negative (nearestBits numerator denominator)

/-- The float nearest to an integer. -/
def ofInt (n : Int) : Float :=
  nearest (decide (n < 0)) n.natAbs 1

end Kiss.Number
