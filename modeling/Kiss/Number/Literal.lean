import Kiss.Number.Nearest

/-!
# Reading numbers

A decimal is an optional sign, digits with at most one point among them, and an optional
exponent; instead of digits there may be a name for infinity or NaN. A hexadecimal number is
an optional sign and digits, and has to fit a signed 64-bit word. Number tokens of a source
text use only a part of this: their digits have no sign and no exponent.
-/

namespace Kiss.Number

/-- Whether a character is a hexadecimal digit of either case. -/
def isHexDigit (c : Char) : Bool :=
  c.isDigit || ('a' ≤ c && c ≤ 'f') || ('A' ≤ c && c ≤ 'F')

/-- The value of a digit of either case; a character that is no digit has no meaning here. -/
def digitValue (c : Char) : Nat :=
  if c.isDigit then c.toNat - '0'.toNat
  else if 'a' ≤ c then c.toNat - 'a'.toNat + 10
  else c.toNat - 'A'.toNat + 10

/-- The number that a row of digits stands for. -/
def digitsValue (base : Nat) (digits : List Char) : Nat :=
  digits.foldl (fun value c => base * value + digitValue c) 0

/-- Splits off a sign; without one the rest is not negative. -/
def splitSign : List Char → Bool × List Char
  | '-' :: rest => (true, rest)
  | '+' :: rest => (false, rest)
  | rest => (false, rest)

/-- An integer in the given base: a sign, and then one digit or more and nothing else. -/
def readInteger (base : Nat) (isDigit : Char → Bool) (text : List Char) : Option Int :=
  let (negative, digits) := splitSign text
  if digits.isEmpty || !digits.all isDigit then none
  else
    let magnitude : Int := digitsValue base digits
    some (if negative then -magnitude else magnitude)

/-- The exponent at the end of a decimal, which may be missing. -/
def readExponent : List Char → Option Int
  | [] => some 0
  | c :: rest => if c = 'e' ∨ c = 'E' then readInteger 10 Char.isDigit rest else none

/-- An unsigned decimal as its digits without the point and the power of ten they count. -/
def readDecimal (text : List Char) : Option (Nat × Int) :=
  let whole := text.takeWhile Char.isDigit
  let afterWhole := text.dropWhile Char.isDigit
  let (fraction, afterFraction) :=
    match afterWhole with
    | '.' :: rest => (rest.takeWhile Char.isDigit, rest.dropWhile Char.isDigit)
    | rest => ([], rest)
  if whole.isEmpty && fraction.isEmpty then none
  else
    (readExponent afterFraction).map fun exponent =>
      (digitsValue 10 (whole ++ fraction), exponent - fraction.length)

/-- Beyond this power of ten every number is infinite, and below its inverse every number
    rounds to zero, so such powers are never computed. -/
def decimalHorizon : Int := 400

/-- The float nearest to `digits * 10 ^ exponent`. -/
def ofDecimal (negative : Bool) (digits : Nat) (exponent : Int) : Float :=
  let order : Int := (Nat.toDigits 10 digits).length + exponent
  if digits = 0 || order < -decimalHorizon then assemble negative 0
  else if decimalHorizon < order then assemble negative infinityBits
  else nearest negative (digits * Nat.pow 10 exponent.toNat) (Nat.pow 10 (-exponent).toNat)

/-- The names of infinity and NaN, in any case. -/
def readName (negative : Bool) (text : List Char) : Option Float :=
  let name := text.map Char.toLower
  if name = ['i', 'n', 'f'] ∨ name = ['i', 'n', 'f', 'i', 'n', 'i', 't', 'y'] then
    some (assemble negative infinityBits)
  else if name = ['n', 'a', 'n'] then some (assemble negative (infinityBits + Nat.pow 2 51))
  else none

/-- The float that a text denotes, correctly rounded. -/
def read? (text : String) : Option Float :=
  let (negative, body) := splitSign text.toList
  match readDecimal body with
  | some (digits, exponent) => some (ofDecimal negative digits exponent)
  | none => readName negative body

/-- The integer that a row of hexadecimal digits denotes, if it fits a signed 64-bit word. -/
def readHex? (text : String) : Option Int :=
  (readInteger 16 isHexDigit text.toList).filter fun n =>
    -Int.pow 2 63 ≤ n && n < Int.pow 2 63

end Kiss.Number
