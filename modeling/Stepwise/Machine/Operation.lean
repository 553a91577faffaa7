import Stepwise.Machine.Basic
import Stepwise.Machine.Failure
import Stepwise.Value.Arithmetic

/-!
# Operations of the language

The operators between values and the two ways of looking into a container. Differences, products and
quotients are floating point numbers; a sum in which one side is a text is a text.
-/

namespace Stepwise.Run

/-- Stops with a failure of the run. -/
def fail {α : Type} (failure : Failure) : Run α :=
  throw failure.stop

/-- The sum of two values. -/
def plus (left right : Value) : Run Value :=
  match left, right with
  | .str _, _ | _, .str _ => do return .str ((← lift left.say) ++ (← lift right.say))
  | .list items, .list items' => pure (.list (items ++ items'))
  | .list _, _ => fail (.concatenation left right)
  | _, _ => lift (left.add right)

/-- The quotient of two values. -/
def quotient (left right : Value) : Run Value :=
  if right.same (.int 0) then fail (.divisionByZero left right)
  else do
    let dividend ← lift left.toFloat
    let divisor ← lift right.toFloat
    if divisor == 0.0 then fault .divisionByZero else return .float (dividend / divisor)

/-- A value as a floating point number. -/
def asFloat (value : Value) : Run Value := do
  return .float (← lift value.toFloat)

/-- Applies an operator to two values. -/
def operate (operator left right : Value) : Run Value :=
  match operator with
  | .str "+" => plus left right
  | .str "-" => do asFloat (← lift (left.subtract right))
  | .str "*" => do asFloat (← lift (left.multiply right))
  | .str "/" => quotient left right
  | .str "==" => pure (.bool (left.same right))
  | .str "!=" => pure (.bool (!left.same right))
  | .str "<" => do return .bool (← lift (left.compareBy .less right))
  | .str ">" => do return .bool (← lift (left.compareBy .greater right))
  | .str "<=" => do return .bool (← lift (left.compareBy .lessEqual right))
  | .str ">=" => do return .bool (← lift (left.compareBy .greaterEqual right))
  | _ => fail (.unknownOperator operator left right)

/-- The item of a list at a position, which counts from the end if it is negative. -/
def itemAt? (items : List Value) (position : Int) : Option Value :=
  if 0 ≤ position then items[position.toNat]?
  else if -(items.length : Int) ≤ position then items[(position + items.length).toNat]?
  else none

/-- The item of a list at a position, or a failure if there is none. -/
def listItem (items : List Value) (position : Int) : Run Value :=
  match itemAt? items position with
  | some value => pure value
  | none => fail (.listKeyOutside position items.length)

/-- Looks into a list. The key has to be an integer or a whole number, and not a truth value. -/
def indexList (items : List Value) : Value → Run Value
  | .int position => listItem items position
  | .float x =>
    match Number.isWhole x, Number.truncate? x with
    | true, some position => listItem items position
    | _, _ => fail (.fractionalListKey (.float x))
  | key => fail (.badListKey key)

/-- Looks into a dictionary. A key that stands for a quoted text is the text itself. -/
def indexDict (entries : List (Value × Value)) (key : Value) : Run Value :=
  match key.unwrapped with
  | .error _ => fail (.missingDictKey key (Table.keys entries))
  | .ok key => do
    let key ← lift key.asKey
    match Table.fetch? key entries with
    | some value => pure value
    | none => fail (.missingDictKey key (Table.keys entries))

/-- Looks into a container as an index expression does. -/
def index (container key : Value) : Run Value :=
  match container with
  | .list items => indexList items key
  | .dict entries => indexDict entries key
  | _ => fail (.notIndexable container)

/-- Looks into a container as it is: a list takes integers and truth values, a dictionary any key. -/
def lookUp (container key : Value) : Run Value :=
  match container with
  | .list items =>
    match key.asInt? with
    | none => fault (.badPosition "list" key.typeName)
    | some position =>
      match itemAt? items position with
      | some value => pure value
      | none => fail (.failedLookup key container)
  | .dict entries => do
    let key ← lift key.asKey
    match Table.fetch? key entries with
    | some value => pure value
    | none => fail (.failedLookup key container)
  | _ => fail (.notLookedInto container)

end Stepwise.Run
