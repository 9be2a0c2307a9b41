/-!
# Numbers as mantissa and exponent

A number of the language is a 64-bit float. This module takes one apart into a sign, a
whole mantissa and a power of two, and puts one together from the bits of its magnitude.
All exact arithmetic on numbers (reading, writing, cutting off the fraction) goes through
these two functions.
-/

namespace Kiss.Number

/-- What the bits of a float stand for. A finite number is `mantissa * 2 ^ exponent`,
    negated if `negative`; zero has mantissa 0 and either sign. -/
inductive Decoded where
  | nan
  | infinite (negative : Bool)
  | finite (negative : Bool) (mantissa : Nat) (exponent : Int)
  deriving DecidableEq, Repr

/-- The exponent of the smallest positive number, which is also that of every number too
    small for a full mantissa. -/
def minExponent : Int := -1074

/-- The bits of infinity. Every smaller pattern is the magnitude of a finite number, and
    larger patterns stand for larger numbers. -/
def infinityBits : Nat := 2047 * Nat.pow 2 52

/-- Takes a float apart. A number with the full 53 bits of mantissa has a mantissa of at
    least `2 ^ 52`; a smaller mantissa comes with the least exponent. -/
def decode (x : Float) : Decoded :=
  let bits : Nat := x.toBits.toNat
  let negative := bits / Nat.pow 2 63 == 1
  let biased : Nat := bits / Nat.pow 2 52 % Nat.pow 2 11
  let fraction : Nat := bits % Nat.pow 2 52
  if biased = 2047 then
    if fraction = 0 then .infinite negative else .nan
  else if biased = 0 then
    .finite negative fraction minExponent
  else
    .finite negative (Nat.pow 2 52 + fraction) ((biased : Int) + minExponent - 1)

/-- The float with the given sign and the given bits below the sign bit. -/
def assemble (negative : Bool) (magnitude : Nat) : Float :=
  Float.ofBits (UInt64.ofNat (if negative then Nat.pow 2 63 + magnitude else magnitude))

/-- The bits of `mantissa * 2 ^ exponent`, for a mantissa of at most `2 ^ 53` that is below
    `2 ^ 52` only with the least exponent. A mantissa of `2 ^ 53` carries into the exponent,
    and what is too large becomes infinity. -/
def magnitudeBits (mantissa : Nat) (exponent : Int) : Nat :=
  min infinityBits ((exponent - minExponent).toNat * Nat.pow 2 52 + mantissa)

end Kiss.Number
