import Kiss.Number.Shortest
import Kiss.Number.Whole

/-!
# Numbers as text

Three written forms of a number: `plain` in the text of a syntax tree, `json` in JSON
documents, and `display` for what a program prints. All three show the shortest digits that
read back; they differ in how they place the point, in whether a whole number keeps a
fraction of zero, and in whether very large and very small numbers take an exponent. What a
program prints is not put together first: it is handed over in parts.
-/

namespace Kiss.Number

/-- The decimal digits of a natural number; zero has one. -/
def decimalDigits (n : Nat) : List Char :=
  Nat.toDigits 10 n

/-- A sign in front of a magnitude. -/
def signed (negative : Bool) (magnitude : List Char) : List Char :=
  if negative then '-' :: magnitude else magnitude

/-- A positive decimal with its point at its place, padded with zeros as needed and never
    with an exponent. A whole number is followed by `wholeSuffix`. -/
def positional (wholeSuffix : List Char) (decimal : Decimal) : List Char :=
  let digits := decimalDigits decimal.digits
  let point : Int := digits.length + decimal.exponent
  if 0 ≤ decimal.exponent then
    digits ++ List.replicate decimal.exponent.toNat '0' ++ wholeSuffix
  else if 0 < point then
    digits.take point.toNat ++ '.' :: digits.drop point.toNat
  else
    '0' :: '.' :: (List.replicate (-point).toNat '0' ++ digits)

/-- A positive decimal with one digit before the point and an exponent that always has its
    sign. -/
def scientific (decimal : Decimal) : List Char :=
  let digits := decimalDigits decimal.digits
  let order : Int := digits.length + decimal.exponent - 1
  let fraction := if digits.length ≤ 1 then [] else '.' :: digits.drop 1
  let sign := if order < 0 then '-' else '+'
  digits.take 1 ++ fraction ++ 'e' :: sign :: decimalDigits order.natAbs

/-- The names of what is not a finite number; NaN has no sign. -/
def notFinite : Option Bool → List Char
  | none => ['N', 'a', 'N']
  | some negative => signed negative ['i', 'n', 'f']

/-- The text of a number in a syntax tree: positional, and whole numbers without a point.
    A number exactly between two shortest decimals takes the larger one. -/
def plain (x : Float) : String :=
  String.ofList <|
    match decode x with
    | .nan => notFinite none
    | .infinite negative => notFinite (some negative)
    | .finite negative mantissa exponent =>
        signed negative <|
          if mantissa = 0 then ['0'] else positional [] (shortest .up mantissa exponent)

/-- The text of a number that a program prints: a whole number in full, with a fraction of
    zero, and any other as in a syntax tree. -/
def display (x : Float) : String :=
  match decode x with
  | .finite negative mantissa exponent =>
      if isWhole mantissa exponent then
        String.ofList <|
          signed negative (decimalDigits (wholeMagnitude mantissa exponent) ++ ['.', '0'])
      else plain x
  | _ => plain x

/-- A row of zeros, handed over in portions of 64. -/
def zeroParts (n : Nat) : List (List Char) :=
  List.replicate (n / 64) (List.replicate 64 '0') ++
    if n % 64 = 0 then [] else [List.replicate (n % 64) '0']

/-- The parts of a positive decimal that is not followed by anything. -/
def positionalParts (decimal : Decimal) : List (List Char) :=
  let digits := decimalDigits decimal.digits
  let point : Int := digits.length + decimal.exponent
  if 0 ≤ decimal.exponent then
    digits :: zeroParts decimal.exponent.toNat
  else if 0 < point then
    [digits.take point.toNat, ['.'], digits.drop point.toNat]
  else
    ['0', '.'] :: zeroParts (-point).toNat ++ [digits]

/-- The parts in which the text of a number is handed over when a program prints it: the sign,
    digits, the point, and zeros that fill up. -/
def displayParts (x : Float) : List (List Char) :=
  match decode x with
  | .nan => [notFinite none]
  | .infinite negative => signParts negative ++ [notFinite (some false)]
  | .finite negative mantissa exponent =>
      signParts negative ++
        if mantissa = 0 then [['0', '.'], ['0']]
        else if isWhole mantissa exponent then
          [decimalDigits (wholeMagnitude mantissa exponent), ['.'], ['0']]
        else positionalParts (shortest .up mantissa exponent)
where
  signParts (negative : Bool) : List (List Char) :=
    if negative then [['-']] else []

/-- The orders of magnitude that a JSON document writes without an exponent. -/
def isPositionalOrder (order : Int) : Bool :=
  -5 ≤ order && order < 16

/-- The text of a number in a JSON document, which has no form for infinities and NaN. A
    number exactly between two shortest decimals takes the one with the even last digit. -/
def json (x : Float) : Option String :=
  match decode x with
  | .finite negative mantissa exponent =>
      some <| String.ofList <| signed negative <|
        if mantissa = 0 then ['0', '.', '0']
        else
          let decimal := shortest .toEven mantissa exponent
          let order : Int := (decimalDigits decimal.digits).length + decimal.exponent - 1
          if isPositionalOrder order then positional ['.', '0'] decimal else scientific decimal
  | _ => none

end Kiss.Number
