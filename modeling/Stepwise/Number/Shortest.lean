import Stepwise.Number.Binary64

/-!
# Shortest decimal text of a floating point number

A floating point number is shown with the fewest digits that read back as the same number, and of
those the ones nearest to its exact value. `shortest` finds the digits; `FloatFormat` says how they
are laid out.
-/

namespace Stepwise.Number

/-- A decimal number `digits · 10 ^ exponent`. -/
structure Decimal where
  digits : Nat
  exponent : Int
  deriving DecidableEq, Repr

/-- The exact value of a positive finite number and the numbers around it that read back as the same
number, in units of `2 ^ exponent`: `low` and `high` are the ends, which belong to it iff `closed`. -/
structure Rounding where
  low : Nat
  middle : Nat
  high : Nat
  exponent : Int
  closed : Bool

/-- The numbers that read back as `mantissa · 2 ^ exponent`. Below a power of two the next number is
half as far away, unless the exponent is already the least one. -/
def Rounding.of (mantissa : Nat) (exponent : Int) : Rounding :=
  let narrow := mantissa == Nat.pow 2 52 && exponent != -1074
  { low := 4 * mantissa - (if narrow then 1 else 2)
    middle := 4 * mantissa
    high := 4 * mantissa + 2
    exponent := exponent - 2
    closed := mantissa % 2 == 0 }

namespace Rounding

/-- What a multiple of `10 ^ place` and a multiple of the unit are scaled by, to compare them. -/
def scales (around : Rounding) (place : Int) : Nat × Nat :=
  let (twoUp, twoDown) := twoPower around.exponent
  (Nat.pow 10 place.toNat * twoDown, Nat.pow 10 (-place).toNat * twoUp)

/-- Whether `count · 10 ^ place` reads back as the number. -/
def admits (around : Rounding) (place : Int) (count : Nat) : Bool :=
  let (grid, unit) := around.scales place
  let point := count * grid
  if around.closed then around.low * unit ≤ point && point ≤ around.high * unit
  else around.low * unit < point && point < around.high * unit

/-- The multiple of `10 ^ place` that reads back as the number and is nearest to it, an even multiple
in a tie, if one of its two neighbours reads back. -/
def nearest? (around : Rounding) (place : Int) : Option Decimal :=
  let (grid, unit) := around.scales place
  let below := around.middle * unit / grid
  let above := below + 1
  let distanceBelow := around.middle * unit - below * grid
  let distanceAbove := above * grid - around.middle * unit
  let pick (count : Nat) : Option Decimal := some ⟨count, place⟩
  match around.admits place below, around.admits place above with
  | true, true =>
    if distanceBelow < distanceAbove then pick below
    else if distanceAbove < distanceBelow then pick above
    else if below % 2 == 0 then pick below else pick above
  | true, false => pick below
  | false, true => pick above
  | false, false => none

/-- The place of the leading digit: the number is at least `10 ^ leading` and below ten times that.
The number is multiplied by `10 ^ 400` first, which makes every positive one greater than one. -/
def leading (around : Rounding) : Int :=
  let (twoUp, twoDown) := twoPower around.exponent
  let scaled := around.middle * twoUp * Nat.pow 10 400 / twoDown
  ((Nat.toDigits 10 scaled).length : Int) - 401

/-- The first of the grids with `count`, `count + 1`, … digits that has a point which reads back. -/
def shortestFrom (around : Rounding) (leading : Int) (count : Nat) : (steps : Nat) → Decimal
  | 0 => ⟨0, 0⟩
  | steps + 1 =>
    match around.nearest? (leading - (count : Int) + 1) with
    | some found => found
    | none => around.shortestFrom leading (count + 1) steps

end Rounding

/-- The shortest decimal number that reads back as `mantissa · 2 ^ exponent`; seventeen digits always
suffice. -/
def shortest (mantissa : Nat) (exponent : Int) : Decimal :=
  let around := Rounding.of mantissa exponent
  around.shortestFrom around.leading 1 17

/-- Digits without their trailing zeros, which move into the exponent. -/
def Decimal.digitList (number : Decimal) : List Char :=
  ((Nat.toDigits 10 number.digits).reverse.dropWhile (· == '0')).reverse

/-- How the digits of a floating point number are laid out. -/
structure FloatFormat where
  /-- The least place of a leading digit that is written without an exponent. -/
  leastPlace : Int
  /-- The first place of a leading digit that is written with an exponent again. -/
  firstFarPlace : Int
  /-- The least number of digits of a written exponent. -/
  exponentWidth : Nat
  infinity : String
  nan : String

/-- Numbers from a ten-thousandth up to below `10 ^ 16` are written without an exponent, and an
exponent has two digits at least. -/
def FloatFormat.shown : FloatFormat where
  leastPlace := -4
  firstFarPlace := 16
  exponentWidth := 2
  infinity := "inf"
  nan := "nan"

/-- An exponent with its sign, padded to the format's width. -/
def FloatFormat.exponentText (format : FloatFormat) (exponent : Int) : List Char :=
  let digits := Nat.toDigits 10 exponent.natAbs
  (if exponent < 0 then '-' else '+') ::
    (List.replicate (format.exponentWidth - digits.length) '0' ++ digits)

/-- The text of `0.digits · 10 ^ point`: `point` digits stand before the decimal point. -/
def FloatFormat.layout (format : FloatFormat) (digits : List Char) (point : Int) : List Char :=
  let place := point - 1
  if place < format.leastPlace || format.firstFarPlace ≤ place then
    let tail := digits.drop 1
    digits.take 1 ++ (if tail.isEmpty then [] else '.' :: tail) ++
      'e' :: format.exponentText place
  else if point ≤ 0 then
    '0' :: '.' :: (List.replicate (-point).toNat '0' ++ digits)
  else
    let whole := digits.take point.toNat
    let fraction := digits.drop point.toNat
    whole ++ List.replicate (point.toNat - digits.length) '0' ++
      '.' :: (if fraction.isEmpty then ['0'] else fraction)

/-- The shortest text of a floating point number in a format. -/
def FloatFormat.text (format : FloatFormat) (x : Float) : String :=
  match exact x with
  | .nan => format.nan
  | .infinite negative => (if negative then "-" else "") ++ format.infinity
  | .finite negative mantissa exponent =>
    let body :=
      if mantissa == 0 then ['0', '.', '0']
      else
        let number := shortest mantissa exponent
        let all := Nat.toDigits 10 number.digits
        format.layout number.digitList ((all.length : Int) + number.exponent)
    (if negative then "-" else "") ++ String.ofList body

/-- The shortest text of a floating point number. -/
def shortestText (x : Float) : String :=
  FloatFormat.shown.text x

end Stepwise.Number
