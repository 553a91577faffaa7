import Stepwise.Report
import Stepwise.Source
import Stepwise.Value.Arithmetic

/-!
# Checking programs

A syntax tree is checked before it runs: it has tasks and tasks to run, every task is run, and every
task to run exists. Sets of names are kept in order: by the name of the type, then by value.
-/

namespace Stepwise

/-- What a check finds: the names of the defined tasks and of those to run, as far as it got, and
whether it succeeds. -/
structure Verdict where
  defined : List Value
  runs : List Value
  outcome : Except Stop Unit

namespace Check

/-- The values without those that are the same as an earlier one. -/
def distinct : List Value → List Value
  | [] => []
  | value :: rest => value :: (distinct rest).filter fun other => !value.same other

/-- Whether a value stands before or beside another in a set. -/
def inOrder (left right : Value) : Bool :=
  if left.typeName == right.typeName then
    match left.compareBy .lessEqual right with
    | .ok holds => holds
    | .error _ => true
  else left.typeName < right.typeName

/-- The values as a set. -/
def setOf (values : List Value) : List Value :=
  (distinct values).mergeSort inOrder

/-- Those members of a set that are not in another. -/
def difference (left right : List Value) : List Value :=
  left.filter fun value => !right.any fun other => other.same value

/-- Names with commas between them; all have to be texts. -/
def joinNames (position : Nat) : List Value → Except Fault (List String)
  | [] => .ok []
  | .str name :: rest => do return name :: (← joinNames (position + 1) rest)
  | value :: _ => .error (.notText position value.typeName)

/-- The names of the given tasks, each of which can serve as a key. -/
def taskNames (tasks : List Value) : Except Fault (List Value) :=
  tasks.mapM fun task => do (← task.part "name").asKey

/-- How a program text announces the task of this name. -/
def announcement (name : Value) : Except Fault String := do
  return "task \"" ++ (← name.say) ++ "\""

/-- The number of the last line that announces one of the tasks, one if there is none. -/
def lastTaskLine (source : Option String) (names : List Value) : Except Fault Nat :=
  match source with
  | none => .ok 1
  | some text =>
    if text == "" then .ok 1
    else do
      let announcements ← names.mapM announcement
      let announces (line : String) : Bool := announcements.any fun needle => Text.occursIn needle line
      let found := ((Text.lines text).zipIdx 1).reverse.find? fun (line, _) => announces line
      return (found.map Prod.snd).getD 1

/-- A report on the program text, pointing at the start of a line, with a snippet around another. -/
def reportAt (source : Option String) (message : String) (line snippetLine : Nat) : Report :=
  .parsing (.str message) (.int line) (.int 1) (.str "")
    (.str (Source.context source snippetLine Source.snippetWindow))

/-- An entry of the tree that is there and counts as true. -/
def presentPart (name : String) (tree : Value) : Except Fault (Option Value) := do
  if ← tree.contains name then
    let found ← tree.part name
    return if found.isTrue then some found else none
  else return none

/-- The report that some tasks are never run. -/
def unrunReport (defined runs : List Value) (names : List String) : Report :=
  .running (.str ("Tasks defined but never run: " ++ ", ".intercalate names))
    (.str "Program Validation") (.str "Run Statement Check")
    (.record [("defined_tasks", .list defined), ("run_tasks", .list runs)])

/-- The report that some tasks to run do not exist. -/
def undefinedReport (defined undefined : List Value) (names : List String) : Report :=
  .running (.str ("Attempting to run undefined tasks: " ++ ", ".intercalate names))
    (.str "Program Validation") (.str "Task Definition Check")
    (.record [("defined_tasks", .list defined), ("attempted_runs", .list undefined)])

/-- Compares the sets of defined tasks and of tasks to run. -/
def compareNames (defined runs : List Value) : Except Stop Unit := do
  let unrun := difference defined runs
  if !unrun.isEmpty then
    let names ← (joinNames 0 unrun).mapError Stop.fault
    throw (unrunReport defined runs names).stop
  let undefined := difference runs defined
  if !undefined.isEmpty then
    let names ← (joinNames 0 undefined).mapError Stop.fault
    throw (undefinedReport defined undefined names).stop

/-- A verdict that a fault brings about. -/
def faulty (defined runs : List Value) (fault : Fault) : Verdict :=
  ⟨defined, runs, .error (.fault fault)⟩

/-- A verdict that a report brings about. -/
def refuse (defined : List Value) (report : Report) : Verdict :=
  ⟨defined, [], .error report.stop⟩

/-- Checks the tasks to run, once the names of the defined tasks are known. -/
def checkRuns (tree : Value) (source : Option String) (names : List Value) : Verdict :=
  let defined := setOf names
  match presentPart "runs" tree with
  | .error fault => faulty defined [] fault
  | .ok none =>
    match lastTaskLine source names with
    | .error fault => faulty defined [] fault
    | .ok line =>
      refuse defined
        (reportAt source "Program must contain at least one run statement" (line + 1) line)
  | .ok (some found) =>
    match found.elements.bind (List.mapM Value.asKey) with
    | .error fault => faulty defined [] fault
    | .ok values =>
      let runs := setOf values
      ⟨defined, runs, compareNames defined runs⟩

/-- Checks a syntax tree. -/
def program (tree : Value) (source : Option String) : Verdict :=
  if !tree.isTrue then refuse [] (reportAt source "Empty or invalid program" 1 1)
  else
    match presentPart "tasks" tree with
    | .error fault => faulty [] [] fault
    | .ok none => refuse [] (reportAt source "Program must contain at least one task" 1 1)
    | .ok (some tasks) =>
      match tasks.elements.bind taskNames with
      | .error fault => faulty [] [] fault
      | .ok names => checkRuns tree source names

end Check

end Stepwise
