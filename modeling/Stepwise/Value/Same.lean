import Stepwise.Number.Binary64
import Stepwise.Value.Basic

/-!
# Equality of values

Two values are the same if the language's `==` says so. Numbers are compared by what they stand for,
whatever their type, so `1`, `1.0` and `True` are the same; dictionaries are compared without regard
to the order of their entries. A NaN is the same as nothing.
-/

namespace Stepwise.Value

/-- Whether an integer and a value are the same number. -/
def sameInt (n : Int) : Value → Bool
  | .bool value => n == (if value then 1 else 0)
  | .int value => n == value
  | .float value => Number.compareInt n value == some .eq
  | _ => false

/-- Whether a floating point number and a value are the same number. -/
def sameFloat (x : Float) : Value → Bool
  | .bool value => Number.compareInt (if value then 1 else 0) x == some .eq
  | .int value => Number.compareInt value x == some .eq
  | .float value => x == value
  | _ => false

/-- Whether two ranges hold the same integers. -/
def sameRange (start stop step start' stop' step' : Int) : Bool :=
  let count := rangeLength start stop step
  count == rangeLength start' stop' step' &&
    (count == 0 || (start == start' && (count == 1 || step == step')))

mutual

/-- Equality of values. -/
def same : Value → Value → Bool
  | .null, .null => true
  | .bool value, other => sameInt (if value then 1 else 0) other
  | .int value, other => sameInt value other
  | .float value, other => sameFloat value other
  | .str text, .str text' => text == text'
  | .list items, .list items' => sameItems items items'
  | .tuple items, .tuple items' => sameItems items items'
  | .dict entries, .dict entries' =>
    entries.length == entries'.length && entriesWithin entries entries'
  | .range start stop step, .range start' stop' step' =>
    sameRange start stop step start' stop' step'
  | .cursor number, .cursor number' => number == number'
  | _, _ => false

/-- Equality of sequences, position by position. -/
def sameItems : List Value → List Value → Bool
  | [], [] => true
  | item :: items, item' :: items' => same item item' && sameItems items items'
  | _, _ => false

/-- Whether each entry of the first dictionary is found in the second. -/
def entriesWithin : List (Value × Value) → List (Value × Value) → Bool
  | [], _ => true
  | (key, value) :: rest, entries' =>
    entries'.any (fun entry => same key entry.1 && same value entry.2) &&
      entriesWithin rest entries'

end

end Stepwise.Value
