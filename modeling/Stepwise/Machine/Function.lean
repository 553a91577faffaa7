import Stepwise.Machine.Operation
import Stepwise.Machine.Supply
import Stepwise.Number.Fixed
import Stepwise.Text.Case

/-!
# Functions

A call names a built-in function or a subtask. A name that is neither may be the name of a subtask in
another spelling: with underscores for blanks and without regard to capitals.
-/

namespace Stepwise.Run

/-- A value as the output shows it. A dictionary that stands for a quoted text is what it holds. -/
def outputText (value : Value) : Run Value :=
  if value.hasTag Value.textTag then lift (value.part "value")
  else
    match value with
    | .float x => pure (.str (Number.outputText x))
    | value => do return .str (← lift value.say)

/-- Texts with blanks between them; anything else among them is a fault. -/
def joinTexts (position : Nat) : List Value → Except Fault (List String)
  | [] => .ok []
  | .str text :: rest => do return text :: (← joinTexts (position + 1) rest)
  | value :: _ => .error (.notText position value.typeName)

/-- The output of some values. -/
def printValues (values : List Value) : Run Value := do
  let texts ← values.mapM outputText
  let joined ← lift (joinTexts 0 texts)
  output (" ".intercalate joined)
  return .null

/-- The sum of some values, one after the other. -/
def total (start : Value) : List Value → Run Value
  | [] => pure start
  | value :: rest => do total (← lift (start.add value)) rest

/-- The sum of the items of a collection and a start, which is no text. -/
def sumFrom (collection start : Value) : Run Value := do
  let supply ← supplyOf collection
  match start with
  | .str _ => fault .sumOfTexts
  | _ => total start (← drain supply)

/-- The built-in sum. -/
def sumOf (arguments : List Value) : Run Value :=
  match arguments with
  | [] => fault (.tooFewArguments "sum" 1 0)
  | [collection] => sumFrom collection (.int 0)
  | [collection, start] => sumFrom collection start
  | _ => fault (.tooManyArguments "sum" 2 arguments.length)

/-- The built-in length. -/
def lengthOf (arguments : List Value) : Run Value :=
  match arguments with
  | [value] => do return .int (← lift value.length)
  | _ => fault (.exactArguments "len" arguments.length)

/-- The built-in enumeration. -/
def enumerationOf (arguments : List Value) : Run Value :=
  match arguments with
  | [] => fault (.missingArgument "enumerate" "iterable")
  | [collection] => do startCursor (← supplyOf collection) 0
  | [collection, start] => do
    let first ← lift start.bound
    startCursor (← supplyOf collection) first
  | _ => fault (.tooManyArguments "enumerate" 2 arguments.length)

/-- The built-in range: the integers below the whole part of its first argument. -/
def rangeOf (arguments : List Value) : Run Value :=
  match arguments with
  | [] => fail .rangeWithoutBound
  | bound :: _ =>
    match bound with
    | .bool _ | .int _ | .float _ => do return .range 0 (← lift bound.truncated) 1
    | _ => fail (.rangeOfNonNumber bound)

/-- The names of the built-in functions. -/
def builtinNames : List String :=
  ["sum", "len", "print", "range", "enumerate"]

/-- The built-in function of a name. -/
def builtin? : String → Option (List Value → Run Value)
  | "range" => some rangeOf
  | "sum" => some sumOf
  | "len" => some lengthOf
  | "print" => some printValues
  | "enumerate" => some enumerationOf
  | _ => none

/-- The name of a subtask that a function name may spell. -/
def spelledSubtask (function : String) : String :=
  Text.titleCase (String.ofList (function.toList.map fun c => if c == '_' then ' ' else c))

/-- Calls a function that is not built in: `call` runs a subtask. -/
def callSubtask (call : Value → Run Value) (function : Value) : Run Value := do
  let key ← lift function.asKey
  if Table.holds key (← get).subtasks then call key
  else
    match function with
    | .str name =>
      let spelled := Value.str (spelledSubtask name)
      if Table.holds spelled (← get).subtasks then call spelled
      else
        let machine ← get
        fail (.unknownFunction function
          (builtinNames.map .str ++ Table.keys machine.subtasks) machine.variables)
    | _ => fault (.missingMember function.typeName "replace")

/-- Calls a function: `call` runs a subtask. -/
def callFunction (call : Value → Run Value) (function : Value) (arguments : List Value) :
    Run Value :=
  match function with
  | .str name =>
    match builtin? name with
    | some run => run arguments
    | none => callSubtask call function
  | _ => callSubtask call function

end Stepwise.Run
