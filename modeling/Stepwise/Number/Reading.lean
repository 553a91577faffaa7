import Stepwise.Fault
import Stepwise.Text.Blank
import Stepwise.Text.DecimalDigit

/-!
# Numbers read from text

An integer is a sign and decimal digits; a floating point number has a fraction or an exponent as
well, or is one of the words for infinity and for no number. Blanks around a number are ignored,
digits may belong to any script, and a single underscore may stand between two digits.
-/

namespace Stepwise.Number

/-- Whether a character may stand around a number. The information separators may not. -/
def isNumberBlank (c : Char) : Bool :=
  Text.isBlank c && !(28 ≤ c.toNat && c.toNat ≤ 31)

/-- A number's characters without the blanks around them, digits of all scripts as Latin ones. -/
def numberChars (text : String) : List Char :=
  let start := text.toList.dropWhile isNumberBlank
  ((start.reverse.dropWhile isNumberBlank).reverse).map fun c =>
    match Text.decimalValue? c with
    | some value => Text.digitChar value
    | none => c

/-- The value of a run of Latin digits. -/
def digitsValue (digits : List Char) : Nat :=
  digits.foldl (fun value digit => 10 * value + (digit.toNat - '0'.toNat)) 0

/-- A sign, if there is one, and what follows it. -/
def splitSign : List Char → Bool × List Char
  | '-' :: rest => (true, rest)
  | '+' :: rest => (false, rest)
  | chars => (false, chars)

/-- The digits of `chars` without the single underscores between them, provided `chars` starts with a
digit and holds nothing else. -/
def joinedDigits : List Char → Option (List Char)
  | [] => none
  | [c] => if c.isDigit then some [c] else none
  | c :: '_' :: rest => if c.isDigit then (joinedDigits rest).map (c :: ·) else none
  | c :: rest => if c.isDigit then (joinedDigits rest).map (c :: ·) else none

/-- The integer that a text stands for. The limit on digits counts leading zeros and holds even if
something else follows the digits. -/
def readInt (text : String) : Except Fault Int :=
  let (negative, body) := splitSign (numberChars text)
  match joinedDigits (body.takeWhile fun c => c.isDigit || c == '_') with
  | none => .error (.notIntText text)
  | some digits =>
    if Value.maxDigits < digits.length then .error (.digitsRead digits.length)
    else if body.all fun c => c.isDigit || c == '_' then
      let magnitude : Int := digitsValue digits
      .ok (if negative then -magnitude else magnitude)
    else .error (.notIntText text)

/-- The nearest floating point number to `digits · 10 ^ exponent`. Far beyond the largest and below
the least number the answer does not depend on the digits. -/
def nearestFloat (digits : Nat) (exponent : Int) : Float :=
  let place : Int := (Nat.toDigits 10 digits).length + exponent
  if digits == 0 then 0.0
  else if 400 < place then Float.ofBits 0x7FF0000000000000
  else if place < -400 then 0.0
  else Float.ofScientific digits (exponent < 0) exponent.natAbs

/-- The characters without the underscores between two digits, if there are no others. -/
def withoutUnderscores (previous : Char) : List Char → Option (List Char)
  | [] => if previous == '_' then none else some []
  | c :: rest =>
    if c == '_' then
      if previous.isDigit then withoutUnderscores c rest else none
    else if previous == '_' && !c.isDigit then none
    else (withoutUnderscores c rest).map (c :: ·)

/-- The exponent that `chars` is, the empty one being zero. -/
def readExponent : List Char → Option Int
  | [] => some 0
  | c :: rest =>
    if c == 'e' || c == 'E' then
      let (negative, digits) := splitSign rest
      if digits.isEmpty || !digits.all Char.isDigit then none
      else
        let magnitude : Int := digitsValue digits
        some (if negative then -magnitude else magnitude)
    else none

/-- The number without sign that `chars` is. -/
def readMagnitude (chars : List Char) : Option Float :=
  let whole := chars.takeWhile Char.isDigit
  let afterWhole := chars.dropWhile Char.isDigit
  let (fraction, afterFraction) := match afterWhole with
    | '.' :: rest => (rest.takeWhile Char.isDigit, rest.dropWhile Char.isDigit)
    | rest => ([], rest)
  if whole.isEmpty && fraction.isEmpty then none
  else (readExponent afterFraction).map fun exponent =>
    nearestFloat (digitsValue (whole ++ fraction)) (exponent - fraction.length)

/-- The number without sign that a word stands for. -/
def readWord (chars : List Char) : Option Float :=
  let word := String.ofList (chars.map Char.toLower)
  if word == "inf" || word == "infinity" then some (Float.ofBits 0x7FF0000000000000)
  else if word == "nan" then some (0.0 / 0.0)
  else none

/-- The floating point number that a text stands for. -/
def readFloat (text : String) : Except Fault Float :=
  match withoutUnderscores ' ' (numberChars text) with
  | none => .error (.notFloatText text)
  | some chars =>
    let (negative, body) := splitSign chars
    match (readMagnitude body).orElse fun _ => readWord body with
    | some magnitude => .ok (if negative then -magnitude else magnitude)
    | none => .error (.notFloatText text)

end Stepwise.Number
