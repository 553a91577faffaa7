import Stepwise.Number.Reading
import Stepwise.Value.Access

/-!
# Arithmetic and order of values

Truth values count as the integers zero and one. An integer meets a floating point number as the
nearest floating point number, except in comparisons, which are exact.
-/

namespace Stepwise

/-- The four comparisons that need an order. -/
inductive Comparison where
  | less
  | lessEqual
  | greater
  | greaterEqual
  deriving DecidableEq, Repr

namespace Comparison

/-- How a comparison is written. -/
def symbol : Comparison → String
  | .less => "<"
  | .lessEqual => "<="
  | .greater => ">"
  | .greaterEqual => ">="

/-- Whether a comparison holds between things in the given order. -/
def holds : Comparison → Ordering → Bool
  | .less, order => order == .lt
  | .lessEqual, order => order != .gt
  | .greater, order => order == .gt
  | .greaterEqual, order => order != .lt

end Comparison

namespace Value

/-- The order of two numbers, `some none` if one of them is a NaN, and `none` for other values. -/
def numberOrder? (left right : Value) : Option (Option Ordering) :=
  match left, right with
  | .float x, .float y => some (Number.compareFloat x y)
  | .float x, other => other.asInt?.map fun n => (Number.compareInt n x).map Ordering.swap
  | other, .float y => other.asInt?.map fun n => Number.compareInt n y
  | left, right =>
    match left.asInt?, right.asInt? with
    | some m, some n => some (some (compare m n))
    | _, _ => none

mutual

/-- A comparison of two values. Sequences are compared at the first position where they differ. -/
def compareBy (comparison : Comparison) : Value → Value → Except Fault Bool
  | .str text, .str text' => .ok (comparison.holds (compare text text'))
  | .list items, .list items' => compareItemsBy comparison items items'
  | .tuple items, .tuple items' => compareItemsBy comparison items items'
  | left, right =>
    match numberOrder? left right with
    | some order => .ok (order.elim false comparison.holds)
    | none => .error (.unordered comparison.symbol left.typeName right.typeName)

/-- A comparison of two sequences. -/
def compareItemsBy (comparison : Comparison) : List Value → List Value → Except Fault Bool
  | [], [] => .ok (comparison.holds .eq)
  | [], _ :: _ => .ok (comparison.holds .lt)
  | _ :: _, [] => .ok (comparison.holds .gt)
  | item :: items, item' :: items' =>
    if same item item' then compareItemsBy comparison items items'
    else compareBy comparison item item'

end

/-- The nearest floating point number to an integer. -/
def floatOfInt (n : Int) : Except Fault Float :=
  match Number.ofInt? n with
  | some x => .ok x
  | none => .error .integerTooLarge

/-- A value as a floating point number; a text is read as one. -/
def toFloat : Value → Except Fault Float
  | .float x => .ok x
  | .str text => Number.readFloat text
  | value =>
    match value.asInt? with
    | some n => floatOfInt n
    | none => .error (.notRealNumber value.typeName)

/-- An operation on two numbers, `none` for other values. -/
def numeric? (onInts : Int → Int → Int) (onFloats : Float → Float → Float) (left right : Value) :
    Option (Except Fault Value) :=
  match left, right with
  | .float x, .float y => some (.ok (.float (onFloats x y)))
  | .float x, other => other.asInt?.map fun n => do return .float (onFloats x (← floatOfInt n))
  | other, .float y => other.asInt?.map fun n => do return .float (onFloats (← floatOfInt n) y)
  | left, right =>
    match left.asInt?, right.asInt? with
    | some m, some n => some (.ok (.int (onInts m n)))
    | _, _ => none

/-- The sum of two numbers, or two sequences of one type one after the other. -/
def add (left right : Value) : Except Fault Value :=
  match numeric? (· + ·) (· + ·) left right with
  | some result => result
  | none =>
    match left, right with
    | .str text, .str text' => .ok (.str (text ++ text'))
    | .list items, .list items' => .ok (.list (items ++ items'))
    | .tuple items, .tuple items' => .ok (.tuple (items ++ items'))
    | .str _, _ | .list _, _ | .tuple _, _ =>
      .error (.cannotConcatenate left.typeName right.typeName)
    | _, _ => .error (.unsupportedOperands "+" left.typeName right.typeName)

/-- The difference of two numbers. -/
def subtract (left right : Value) : Except Fault Value :=
  match numeric? (· - ·) (· - ·) left right with
  | some result => result
  | none => .error (.unsupportedOperands "-" left.typeName right.typeName)

/-- The length from which on a repeated sequence is refused. -/
def memoryLimit : Nat := Nat.pow 2 32

/-- How often a sequence is repeated by a count: a negative count counts as zero. -/
def repetitions (size : Nat) (isText : Bool) (count : Value) : Except Fault Nat :=
  match count.asInt? with
  | none => .error (.cannotRepeat count.typeName)
  | some n =>
    if (maxLength : Int) < n || n < -(maxLength : Int) - 1 then .error .repetitionTooLarge
    else if isText && maxLength < size * n.toNat then .error .textTooLong
    else if memoryLimit < size * n.toNat then .error .outOfMemory
    else if size == 0 then .ok 0
    else .ok n.toNat

/-- A sequence repeated, `none` if the value is no sequence that can be. -/
def repeated? (value count : Value) : Option (Except Fault Value) :=
  match value with
  | .str text => some do
    let times ← repetitions text.length true count
    return .str (String.join (List.replicate times text))
  | .list items => some do
    let times ← repetitions items.length false count
    return .list (List.replicate times items).flatten
  | .tuple items => some do
    let times ← repetitions items.length false count
    return .tuple (List.replicate times items).flatten
  | _ => none

/-- The product of two numbers, or a sequence repeated. -/
def multiply (left right : Value) : Except Fault Value :=
  match numeric? (· * ·) (· * ·) left right with
  | some result => result
  | none =>
    match repeated? left right, repeated? right left with
    | some result, _ => result
    | none, some result => result
    | none, none => .error (.unsupportedOperands "*" left.typeName right.typeName)

/-- A number with the opposite sign. -/
def negate : Value → Except Fault Value
  | .float x => .ok (.float (-x))
  | value =>
    match value.asInt? with
    | some n => .ok (.int (-n))
    | none => .error (.unsupportedNegation value.typeName)

/-- The whole part of a number. -/
def truncated : Value → Except Fault Int
  | .float x =>
    match Number.truncate? x with
    | some n => .ok n
    | none => .error (if x.isNaN then .nanToInt else .infinityToInt)
  | value =>
    match value.asInt? with
    | some n => .ok n
    | none => .error (.notInteger value.typeName)

/-- An integer or truth value as the bound of a range. -/
def bound (value : Value) : Except Fault Int :=
  match value.asInt? with
  | some n => .ok n
  | none => .error (.notInteger value.typeName)

end Value

end Stepwise
