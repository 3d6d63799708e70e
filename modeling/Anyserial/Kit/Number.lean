import Anyserial.Kit.FloatFormat

/-! The numbers of Python: integers of any size, and doubles with two infinities and a
value that compares with nothing. -/
set_option autoImplicit false

namespace Anyserial.Kit

inductive ExtendedRational where
  | finite (value : ℚ)
  | posInf
  | negInf
  | nan
  deriving DecidableEq

namespace ExtendedRational

def lt : ExtendedRational → ExtendedRational → Bool
  | nan, _ => false
  | _, nan => false
  | finite left, finite right => left < right
  | finite _, posInf => true
  | negInf, finite _ => true
  | negInf, posInf => true
  | _, _ => false

def le (left right : ExtendedRational) : Bool :=
  left.lt right || (left == right && left != nan)

/-- The product with a positive factor. A finite product that is too large for the format
overflows to the infinity of its sign. -/
def scale (format : FloatFormat) (factor : ℚ) : ExtendedRational → ExtendedRational
  | finite value =>
      if |value * factor| < format.limit then finite (format.round (value * factor))
      else if 0 < value then posInf else negInf
  | posInf => posInf
  | negInf => negInf
  | nan => nan

end ExtendedRational

section Decimals

/-- The decimals of `count` digits on both sides of a positive value: the digits as an
integer, and the power of ten of the last one. -/
def decimalsAround (value : ℚ) (count : Nat) : List (Nat × Int) :=
  let place := Int.log 10 value + 1 - count
  let below := ⌊value / 10 ^ place⌋.toNat
  [(below, place), (below + 1, place)]

def decimalValue (decimal : Nat × Int) : ℚ := decimal.1 * 10 ^ decimal.2

/-- The nearer of those that the format reads as the value. -/
def readBack (format : FloatFormat) (value : ℚ) (count : Nat) : Option (Nat × Int) :=
  match (decimalsAround value count).filter fun decimal => format.round (decimalValue decimal) = value with
  | [below, above] => some (if decimalValue above - value < value - decimalValue below then above else below)
  | found => found.head?

/-- The decimal with the fewest digits. Seventeen digits tell all doubles apart. -/
def shortestDecimal (value : ℚ) : Nat × Int :=
  ((List.range 17).findSome? fun n => readBack binary64 value (n + 1)).getD (0, 0)

def zeros (count : Int) : String := String.ofList (List.replicate count.toNat '0')

/-- Digits with the point after `point` of them; more than sixteen before it, or four
zeros after it, are written with an exponent. -/
def placePoint (digits : String) (point : Int) : String :=
  let size : Int := digits.length
  if point ≤ -4 ∨ 16 < point then
    let tail := if size = 1 then "" else "." ++ digits.drop 1
    let power := toString (point - 1).natAbs
    (digits.take 1).toString ++ tail ++ (if 0 < point then "e+" else "e-") ++ zeros (2 - power.length) ++ power
  else if point ≤ 0 then "0." ++ zeros (-point) ++ digits
  else if size ≤ point then digits ++ zeros (point - size) ++ ".0"
  else (digits.take point.toNat).toString ++ "." ++ digits.drop point.toNat

def positiveRepr (value : ℚ) : String :=
  let (mantissa, place) := shortestDecimal value
  let digits := toString mantissa
  placePoint (digits.dropEndWhile (· = '0')).toString (place + digits.length)

/-- `repr` of a float. -/
def ExtendedRational.repr : ExtendedRational → String
  | finite value =>
      if value = 0 then "0.0"
      else if 0 < value then positiveRepr value
      else "-" ++ positiveRepr (-value)
  | posInf => "inf"
  | negInf => "-inf"
  | nan => "nan"

end Decimals

/-- An integer, or a float. -/
inductive Number where
  | int (value : ℤ)
  | float (value : ExtendedRational)
  deriving DecidableEq

namespace Number

/-- What comparisons read. -/
def value : Number → ExtendedRational
  | int n => .finite n
  | float number => number

/-- The product with a positive integer: exact for an integer, a double for a float. -/
def scale (factor : ℕ) : Number → Number
  | int n => int (n * factor)
  | float number => float (number.scale binary64 factor)

/-- No double is as large as the integer. -/
def TooLarge : Number → Prop
  | int n => doubleOverflow ≤ |(n : ℚ)|
  | float _ => False

def repr : Number → String
  | int n => toString n
  | float number => number.repr

end Number

end Anyserial.Kit
