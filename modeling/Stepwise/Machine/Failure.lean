import Stepwise.Report

/-!
# Failures of a run

The errors of the language that a run can end with, by their causes. `Failure.report` words them and
says which step and which values the report shows.
-/

namespace Stepwise

/-- Why a run fails. -/
inductive Failure where
  | unknownTask (name : Value) (available : List Value)
  | unknownSubtask (name : Value) (available : List Value)
  | undefinedVariable (name : Value) (defined : List Value)
  /-- A variable that an enumeration needs is not there. -/
  | undefinedEnumerated (name : Value)
  | undefinedLoopVariable (name : Value) (defined : List Value)
  | undefinedNumbered (name : Value) (defined : List Value)
  | notLoopable (name value : Value)
  | notNumberable (name value : Value)
  /-- A list is indexed by something that is no number. -/
  | badListKey (key : Value)
  | fractionalListKey (key : Value)
  | listKeyOutside (key : Int) (length : Nat)
  | missingDictKey (key : Value) (available : List Value)
  | notIndexable (container : Value)
  /-- An entry that a plain look-up does not find. -/
  | failedLookup (key container : Value)
  | notLookedInto (container : Value)
  | concatenation (left right : Value)
  | divisionByZero (left right : Value)
  | unknownOperator (operator left right : Value)
  | rangeWithoutBound
  | rangeOfNonNumber (bound : Value)
  | unknownFunction (name : Value) (available : List Value) (state : List (Value × Value))
  /-- A fault that a run does not survive. -/
  | broken (cause : Fault) (state : List (Value × Value))

namespace Failure

/-- A report on a run that names neither task nor step. -/
def plainReport (message : String) (details : List (String × Value)) : Report :=
  .running (.str message) .null .null (.record details)

/-- A report on a run that names a step. -/
def stepReport (message step : String) (details : List (String × Value)) : Report :=
  .running (.str message) .null (.str step) (.record details)

/-- The values that are looked up in a container: the positions of a list, the keys of a dictionary. -/
def lookupRange : Value → Value
  | .list items => .str ("0-" ++ toString ((items.length : Int) - 1))
  | .dict entries => .list (Table.keys entries)
  | _ => .null

/-- The report on a failure, unless a value in its message has too many digits. -/
def report : Failure → Except Fault Report
  | .unknownTask name available => do
    return .running (.str ("Task '" ++ (← name.say) ++ "' not found")) name .null
      (.record [("available_tasks", .list available)])
  | .unknownSubtask name available => do
    return stepReport ("Subtask '" ++ (← name.say) ++ "' not found") "subtask execution"
      [("attempted_subtask", name), ("available_subtasks", .list available)]
  | .undefinedVariable name defined => do
    return plainReport ("Undefined variable: " ++ (← name.say))
      [("attempted_variable", name), ("defined_variables", .list defined)]
  | .undefinedEnumerated name => do
    return .running (.str ("Undefined variable: " ++ (← name.say))) .null .null .null
  | .undefinedLoopVariable name defined => do
    return stepReport ("Undefined variable in for loop: " ++ (← name.say))
      "for loop initialization"
      [("attempted_variable", name), ("defined_variables", .list defined)]
  | .undefinedNumbered name defined => do
    return stepReport ("Undefined variable in enumerate: " ++ (← name.say))
      "enumerate loop initialization"
      [("attempted_variable", name), ("defined_variables", .list defined)]
  | .notLoopable name value => do
    return stepReport ((← name.say) ++ " is not a collection we can iterate over")
      "for loop iteration"
      [("iterable_name", name), ("iterable_type", .str value.typeName), ("iterable_value", value),
        ("supported_types", .texts ["list", "dict", "string", "range"])]
  | .notNumberable name value => do
    return stepReport ((← name.say) ++ " is not a collection we can enumerate") "enumerate loop"
      [("iterable_name", name), ("iterable_type", .str value.typeName),
        ("supported_types", .texts ["list", "dict", "string"]), ("current_value", value)]
  | .badListKey key =>
    .ok (plainReport
      ("Invalid index/key: List indices must be integers, got " ++ key.typeName)
      [("attempted_key", key), ("key_type", .str key.typeName)])
  | .fractionalListKey key => do
    return plainReport
      ("Invalid index/key: List indices must be whole numbers, got " ++ (← key.say))
      [("attempted_key", key)]
  | .listKeyOutside key length => do
    return plainReport
      ("Invalid index/key: " ++ (← (Value.int key).say) ++ " is out of range for list of length " ++
        toString length)
      [("attempted_key", .int key), ("list_length", .int length),
        ("valid_range", .str ("-" ++ toString length ++ " to " ++ toString ((length : Int) - 1)))]
  | .missingDictKey key available => do
    return plainReport ("Invalid index/key: " ++ (← key.say) ++ " not found in dictionary")
      [("attempted_key", key), ("available_keys", .list available)]
  | .notIndexable container => do
    return plainReport ("Cannot index into type: " ++ container.typeName)
      [("attempted_type", .str container.typeName), ("value", .str (← container.say)),
        ("indexable_types", .texts ["list", "dict"])]
  | .failedLookup key container => do
    return plainReport ("Invalid index/key: " ++ (← key.say))
      [("attempted_key", key), ("container_type", .str container.typeName),
        ("valid_range", lookupRange container)]
  | .notLookedInto container => do
    return plainReport ("Cannot index into type: " ++ container.typeName)
      [("container_type", .str container.typeName), ("container_value", .str (← container.say)),
        ("indexable_types", .texts ["list", "dict", "string"])]
  | .concatenation left right =>
    .ok (plainReport "Cannot concatenate list with non-list"
      [("left_type", .str left.typeName), ("right_type", .str right.typeName),
        ("left_value", left), ("right_value", right)])
  | .divisionByZero left right =>
    .ok (plainReport "Division by zero"
      [("operation", .str "division"), ("left_operand", left), ("right_operand", right)])
  | .unknownOperator operator left right => do
    return plainReport ("Unknown operator: " ++ (← operator.say))
      [("operation", .str "unknown"), ("left_operand", left), ("right_operand", right),
        ("supported_operators", .texts ["+", "-", "*", "/", "==", "!=", "<", ">", "<=", ">="])]
  | .rangeWithoutBound =>
    .ok (plainReport "range() function requires at least one argument"
      [("provided_args", .int 0), ("minimum_args", .int 1), ("function", .str "range")])
  | .rangeOfNonNumber bound =>
    .ok (plainReport "range() argument must be a number"
      [("provided_type", .str bound.typeName), ("provided_value", bound),
        ("expected_type", .str "number (int or float)")])
  | .unknownFunction name available state => do
    return plainReport ("Unknown function: " ++ (← name.say))
      [("attempted_function", name), ("available_functions", .list available),
        ("current_variables", .dict state)]
  | .broken cause state =>
    if cause.speakable then .ok (.running (.str cause.message) .null .null (.dict state))
    else .error .digitsShown

/-- How a failure stops a run. -/
def stop (failure : Failure) : Stop :=
  match failure.report with
  | .ok report => report.stop
  | .error cause => .fault cause

end Failure

end Stepwise
