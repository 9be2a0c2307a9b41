import Kiss.Number.Nearest

/-!
# Whole parts

The operator that works on bits takes the whole part of each operand as a 64-bit word.
-/

namespace Kiss.Number

/-- The magnitude of a finite number without its fraction. -/
def wholeMagnitude (mantissa : Nat) (exponent : Int) : Nat :=
  mantissa * Nat.pow 2 exponent.toNat / Nat.pow 2 (-exponent).toNat

/-- Whether a finite number has no fraction. -/
def isWhole (mantissa : Nat) (exponent : Int) : Bool :=
  mantissa % Nat.pow 2 (-exponent).toNat == 0

/-- The whole part of a number, cut off towards zero and confined to the range of a signed
    64-bit word; NaN counts as zero. -/
def wholePart (x : Float) : Int :=
  match decode x with
  | .nan => 0
  | .infinite negative => if negative then -Int.pow 2 63 else Int.pow 2 63 - 1
  | .finite negative mantissa exponent =>
      let magnitude : Int := wholeMagnitude mantissa exponent
      if negative then max (-Int.pow 2 63) (-magnitude) else min (Int.pow 2 63 - 1) magnitude

/-- Exclusive or of the whole parts, bit by bit in two's complement. -/
def bitXor (x y : Float) : Float :=
  ofInt (Int64.ofInt (wholePart x) ^^^ Int64.ofInt (wholePart y)).toInt

end Kiss.Number
