import Stepwise.Value.Access

/-!
# Reports

A report is an error of the language itself, as the user sees it: what is wrong, and where. A report on
a program text names a line, a column, a token and a snippet; a report on a run names the task, the
step and the variables that matter. All parts are values, since a report may be about any value.
-/

namespace Stepwise

/-- An error of the language. -/
inductive Report where
  | general (message line column context : Value)
  | parsing (message line column token snippet : Value)
  | running (message task step state : Value)
  deriving Inhabited

/-- Why a computation stops: a fault of an operation, or a report. -/
inductive Stop where
  | fault (fault : Fault)
  | report (report : Report)
  deriving Inhabited

namespace Report

/-- What a report says is wrong. -/
def message : Report → Value
  | .general message .. => message
  | .parsing message .. => message
  | .running message .. => message

/-- The line that a report names. -/
def line : Report → Value
  | .general _ line _ _ => line
  | .parsing _ line _ _ _ => line
  | .running .. => .null

/-- The column that a report names. -/
def column : Report → Value
  | .general _ _ column _ => column
  | .parsing _ _ column _ _ => column
  | .running .. => .null

/-- The lines about variables in the context of a report. -/
def variableLines : List (Value × Value) → Except Fault (List String)
  | [] => .ok []
  | (name, value) :: rest => do
    let line := "  " ++ (← name.say) ++ " = " ++ (← value.say)
    return line :: (← variableLines rest)

/-- The entries of a dictionary of variables. -/
def variableEntries : Value → Except Fault (List (Value × Value))
  | .dict entries => .ok entries
  | value => .error (.missingMember value.typeName "items")

/-- A line of the context that is left out if its value counts as false. -/
def contextLine (before : String) (value : Value) (after : String) : Except Fault (List String) := do
  if value.isTrue then return [before ++ (← value.say) ++ after] else return []

/-- The context that a report gives. -/
def context : Report → Except Fault Value
  | .general _ _ _ context => .ok context
  | .parsing _ _ _ token snippet => do
    let near ← contextLine "Near token: '" token "'"
    let source ← contextLine "Source code:\n" snippet ""
    return .str ("\n".intercalate (near ++ source))
  | .running _ task step state => do
    let inTask ← contextLine "In task: '" task "'"
    let inStep ← contextLine "In step/subtask: '" step "'"
    let state ←
      if state.isTrue then do
        let entries ← variableEntries state
        pure ("Current variable state:" :: (← variableLines entries))
      else pure []
    return .str ("\n".intercalate (inTask ++ inStep ++ state))

/-- A line of the text that is left out if its value is null. -/
def textLine (name : String) (value : Value) : Except Fault String :=
  match value with
  | .null => .ok ""
  | value => do return "\n" ++ name ++ ": " ++ (← value.say)

/-- The whole text of a report. -/
def text (report : Report) : Except Fault String := do
  let context ← report.context
  let headline := "Think Error: " ++ (← report.message.say)
  return headline ++ (← textLine "Line" report.line) ++ (← textLine "Column" report.column) ++
    (← textLine "Context" context)

/-- How a report ends a computation: with itself, or with a fault if it cannot be worded. -/
def stop (report : Report) : Stop :=
  match report.text with
  | .ok _ => .report report
  | .error fault => .fault fault

end Report

end Stepwise
