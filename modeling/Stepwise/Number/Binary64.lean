/-!
# Exact values of floating point numbers

A finite floating point number is `mantissa · 2 ^ exponent`, with a sign. Printing, whole-number tests
and comparisons with integers work on that exact value.
-/

namespace Stepwise.Number

/-- What a floating point number stands for. -/
inductive Exact where
  | finite (negative : Bool) (mantissa : Nat) (exponent : Int)
  | infinite (negative : Bool)
  | nan
  deriving DecidableEq, Repr

/-- The exact value of a floating point number. -/
def exact (x : Float) : Exact :=
  let bits : Nat := x.toBits.toNat
  let negative := bits / Nat.pow 2 63 == 1
  let biased : Nat := bits / Nat.pow 2 52 % Nat.pow 2 11
  let fraction : Nat := bits % Nat.pow 2 52
  if biased == 2047 then
    if fraction == 0 then .infinite negative else .nan
  else if biased == 0 then .finite negative fraction (-1074)
  else .finite negative (fraction + Nat.pow 2 52) ((biased : Int) - 1075)

/-- A power of two with an integer exponent, as the pair of a factor and a divisor. -/
def twoPower (exponent : Int) : Nat × Nat :=
  (Nat.pow 2 exponent.toNat, Nat.pow 2 (-exponent).toNat)

/-- Whether a floating point number is a whole number. -/
def isWhole (x : Float) : Bool :=
  match exact x with
  | .finite _ mantissa exponent => mantissa % (twoPower exponent).2 == 0
  | _ => false

/-- The floating point number without its fraction, if it is finite. -/
def truncate? (x : Float) : Option Int :=
  match exact x with
  | .finite negative mantissa exponent =>
    let (factor, divisor) := twoPower exponent
    let magnitude : Int := ((mantissa * factor / divisor : Nat) : Int)
    some (if negative then -magnitude else magnitude)
  | _ => none

/-- The order of an integer and a floating point number by exact value, `none` against a NaN. -/
def compareInt (n : Int) (x : Float) : Option Ordering :=
  match exact x with
  | .nan => none
  | .infinite negative => some (if negative then .gt else .lt)
  | .finite negative mantissa exponent =>
    let (factor, divisor) := twoPower exponent
    let magnitude : Int := ((mantissa * factor : Nat) : Int)
    some (compare (n * divisor) (if negative then -magnitude else magnitude))

/-- The order of two floating point numbers, `none` if one of them is a NaN. -/
def compareFloat (x y : Float) : Option Ordering :=
  if x < y then some .lt
  else if x == y then some .eq
  else if y < x then some .gt
  else none

/-- The nearest floating point number to an integer, a tie going to the even mantissa; `none` when the
integer is beyond the largest finite number. -/
def ofInt? (n : Int) : Option Float :=
  let x := Float.ofInt n
  if x.isFinite then some x else none

end Stepwise.Number
