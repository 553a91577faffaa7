import Stepwise.Number.Binary64

/-!
# Fixed places

The output of a program shows a floating point number rounded to six places, a tie going to the even
neighbour, and then without trailing zeros and without a trailing point.
-/

namespace Stepwise.Number

/-- The quotient rounded to the nearest whole number, a tie going to the even neighbour. -/
def roundHalfEven (numerator denominator : Nat) : Nat :=
  let quotient := numerator / denominator
  let twice := 2 * (numerator % denominator)
  if twice < denominator then quotient
  else if denominator < twice then quotient + 1
  else quotient + quotient % 2

/-- The number with the given count of places, its whole part before the point. -/
def placed (places scaled : Nat) : List Char :=
  let digits := Nat.toDigits 10 scaled
  let padded := List.replicate (places + 1 - digits.length) '0' ++ digits
  let whole := padded.length - places
  padded.take whole ++ '.' :: padded.drop whole

/-- A text without the given character at its end. -/
def dropTrailing (c : Char) (chars : List Char) : List Char :=
  (chars.reverse.dropWhile (· == c)).reverse

/-- The places of a number in the output. -/
def outputPlaces : Nat := 6

/-- A floating point number as the output shows it. -/
def outputText (x : Float) : String :=
  match exact x with
  | .nan => "nan"
  | .infinite negative => if negative then "-inf" else "inf"
  | .finite negative mantissa exponent =>
    let (factor, divisor) := twoPower exponent
    let scaled := roundHalfEven (mantissa * factor * Nat.pow 10 outputPlaces) divisor
    let body := dropTrailing '.' (dropTrailing '0' (placed outputPlaces scaled))
    (if negative then "-" else "") ++ String.ofList body

end Stepwise.Number
