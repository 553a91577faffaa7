/-!
# Values

The language has one kind of run-time value. Syntax trees are values too: a node is a dictionary with
an entry `type`, and a value that a program has computed may be read as a node again.

A dictionary keeps its entries in the order in which their keys were first stored.
-/

namespace Stepwise

/-- A value of the language. -/
inductive Value where
  | null
  | bool (value : Bool)
  | int (value : Int)
  | float (value : Float)
  | str (text : String)
  | list (items : List Value)
  | tuple (items : List Value)
  | dict (entries : List (Value × Value))
  /-- The integers from `start` on, in steps of `step`, that lie before `stop`. -/
  | range (start stop step : Int)
  /-- A running enumeration, known by its number; how far it has run is kept by the machine. -/
  | cursor (number : Nat)
  deriving Inhabited

namespace Value

/-- The name of a value's type, as messages show it. -/
def typeName : Value → String
  | .null => "NoneType"
  | .bool _ => "bool"
  | .int _ => "int"
  | .float _ => "float"
  | .str _ => "str"
  | .list _ => "list"
  | .tuple _ => "tuple"
  | .dict _ => "dict"
  | .range .. => "range"
  | .cursor _ => "enumerate"

/-- The integer that a truth value or an integer stands for. -/
def asInt? : Value → Option Int
  | .bool value => some (if value then 1 else 0)
  | .int value => some value
  | _ => none

/-- How many integers a range holds. -/
def rangeLength (start stop step : Int) : Nat :=
  if 0 < step then ((stop - start + step - 1) / step).toNat
  else if step < 0 then ((start - stop - step - 1) / -step).toNat
  else 0

/-- The integers of a range that starts at `start` and has `count` members. -/
def rangeItems (step : Int) : (count : Nat) → (start : Int) → List Value
  | 0, _ => []
  | count + 1, start => .int start :: rangeItems step count (start + step)

/-- Whether a value counts as true in a condition. -/
def isTrue : Value → Bool
  | .null => false
  | .bool value => value
  | .int value => value != 0
  | .float value => value != 0.0
  | .str text => text != ""
  | .list items => !items.isEmpty
  | .tuple items => !items.isEmpty
  | .dict entries => !entries.isEmpty
  | .range start stop step => rangeLength start stop step != 0
  | .cursor _ => true

/-- A dictionary with text keys, such as a node of a syntax tree. -/
def record (fields : List (String × Value)) : Value :=
  .dict (fields.map fun field => (.str field.1, field.2))

/-- A list of texts. -/
def texts (items : List String) : Value :=
  .list (items.map .str)

end Value

end Stepwise
