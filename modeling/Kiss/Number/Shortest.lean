import Kiss.Number.Binary

/-!
# The fewest digits that read back

Every real number between two halfway points reads back as the same float. The shortest
decimal of a float is the one with the fewest digits inside that interval, and of those the
nearest. The search goes through the grids of multiples of a power of ten, from coarse to
fine, and tests the two neighbours of the number on each, in exact arithmetic: if any
multiple lies in the interval, so does one of these two.
-/

namespace Kiss.Number

/-- Which of two decimals is taken when the number lies exactly between them. -/
inductive TieRule where
  | up
  | toEven
  deriving DecidableEq, Repr

/-- A decimal `digits * 10 ^ exponent`. -/
structure Decimal where
  digits : Nat
  exponent : Int
  deriving DecidableEq, Repr

/-- The reals that read back as one number, in units of a quarter of its last binary place
    (`2 ^ scale`). The ends belong to the interval if the mantissa is even. -/
structure ReadBack where
  low : Nat
  value : Nat
  high : Nat
  closed : Bool
  scale : Int
  deriving DecidableEq, Repr

/-- The interval of a positive number. Below a power of two the numbers lie twice as close,
    so there the lower end is half as far away. -/
def readBack (mantissa : Nat) (exponent : Int) : ReadBack :=
  { low := if mantissa = Nat.pow 2 52 ∧ minExponent < exponent then 4 * mantissa - 1
           else 4 * mantissa - 2
    value := 4 * mantissa
    high := 4 * mantissa + 2
    closed := mantissa % 2 == 0
    scale := exponent - 2 }

/-- A multiple of `10 ^ place` and a multiple of `2 ^ scale` compare as the products of
    their counts with these two factors. -/
def ReadBack.decimalUnit (r : ReadBack) (place : Int) : Nat :=
  Nat.pow 10 place.toNat * Nat.pow 2 (-r.scale).toNat

/-- The factor of the binary side; see `ReadBack.decimalUnit`. -/
def ReadBack.binaryUnit (r : ReadBack) (place : Int) : Nat :=
  Nat.pow 10 (-place).toNat * Nat.pow 2 r.scale.toNat

/-- Whether `digits * 10 ^ place` reads back as the number. -/
def ReadBack.holds (r : ReadBack) (place : Int) (digits : Nat) : Bool :=
  let decimal := digits * r.decimalUnit place
  let low := r.low * r.binaryUnit place
  let high := r.high * r.binaryUnit place
  if r.closed then low ≤ decimal && decimal ≤ high else low < decimal && decimal < high

/-- The nearer of the two neighbouring multiples `below` and `below + 1`. -/
def ReadBack.nearer (r : ReadBack) (tie : TieRule) (place : Int) (below : Nat) : Nat :=
  let middle := (2 * below + 1) * r.decimalUnit place
  let twice := 2 * r.value * r.binaryUnit place
  if twice < middle then below
  else if middle < twice then below + 1
  else
    match tie with
    | .up => below + 1
    | .toEven => below + below % 2

/-- The best multiple of `10 ^ place` that reads back, if there is one. -/
def ReadBack.onGrid (r : ReadBack) (tie : TieRule) (place : Int) : Option Nat :=
  let below := r.value * r.binaryUnit place / r.decimalUnit place
  match r.holds place below, r.holds place (below + 1) with
  | true, true => some (r.nearer tie place below)
  | true, false => some below
  | false, true => some (below + 1)
  | false, false => none

/-- Searches at most `steps` further grids, each ten times as fine as the one before. On the
    last grid the number is itself a multiple, which is then the answer. -/
def ReadBack.search (r : ReadBack) (tie : TieRule) : Nat → Int → Decimal
  | 0, place => ⟨r.value * r.binaryUnit place / r.decimalUnit place, place⟩
  | steps + 1, place =>
      match r.onGrid tie place with
      | some digits => ⟨digits, place⟩
      | none => r.search tie steps (place - 1)

/-- A power of ten, as an exponent, that is larger than the whole interval. -/
def ReadBack.coarsest (r : ReadBack) : Int :=
  (r.high.log2 + 1 + r.scale) * 30103 / 100000 + 2

/-- The shortest decimal of the positive number `mantissa * 2 ^ exponent`. The last grid is
    the one on which multiples of `2 ^ scale` lie. -/
def shortest (tie : TieRule) (mantissa : Nat) (exponent : Int) : Decimal :=
  let r := readBack mantissa exponent
  r.search tie (r.coarsest - min 0 r.scale).toNat r.coarsest

end Kiss.Number
