import Stepwise.Grammar.Rule
import Stepwise.Machine.Node
import Stepwise.Notebook.Page
import Stepwise.Workload.Basic
import Stepwise.Workload.Program

/-!
# Results of the workloads

What each workload computes at a size. Sizes below zero count as empty ranges.
-/

namespace Stepwise.Workload

/-- The machine after a program text has run. -/
def machineAfter (settings : Settings) (source : String) : Except Stop Machine :=
  let (outcome, machine) :=
    (Run.executeSource (.str source)).run.run (Machine.fresh settings (some source))
  outcome.map fun _ => machine

/-- The settings without explanations. -/
def quietSettings : Settings := ⟨false, .standard, 5⟩

/-- The values of some variables after a program text has run. -/
def variablesAfter (settings : Settings) (source : String) (names : List String) :
    Except Stop (List Value) := do
  let machine ← machineAfter settings source
  return names.map fun name => (machine.variables.fetch? (.str name)).getD .null

/-- The sum of some lengths. -/
def total (lengths : List Nat) : Nat :=
  lengths.foldl (· + ·) 0

/-- The lengths of the snippets at thirty-one places of the long program. -/
def snippetsLength (window : Int) : Nat :=
  let places := (List.range 31).map (· * (longProgram.length / 30))
  total (places.map fun (place : Nat) => (Source.snippetAt longProgram (place : Int) window).length)

/-- How many phrases are built in a round. -/
def phrasesPerRound : Int := 81

/-- The number of phrases built in as many rounds as fit, at least one, and two of the phrases. -/
def phrasesResult (size : Int) : Except Fault Value := do
  let rounds := max 1 (size / phrasesPerRound)
  let program ← Grammar.Rule.program.build
    [⟨"", .str "o"⟩, ⟨"", .list [.record [("name", .str "T")]]⟩, ⟨"", .texts ["T"]⟩]
  let objective ← Grammar.Rule.objective.build
    [⟨"", .str "objective"⟩, ⟨"", .textLiteral (.str "x")⟩]
  return .list [.int (rounds * phrasesPerRound), .str (← program.sayQuoted),
    .str (← objective.sayQuoted)]

/-- What is added to the sum in every style. -/
def stylesBase : Int := 49

/-- A sum, the same in every style of explanations. -/
def stylesResult (size : Int) : Except Stop Value := do
  let sums ← Style.all.mapM fun style => do
    match ← variablesAfter ⟨true, style, 3⟩ (sumProgram size) ["total"] with
    | [.int total] => pure (Value.int (total + stylesBase))
    | _ => pure Value.null
  return .list sums

/-- The operators, in the order in which they are applied. -/
def operatorCycle : List String :=
  ["+", "-", "*", "/", "==", "!=", "<", ">", "<=", ">="]

/-- What is added to the results of the operators. -/
def operationsBase : Float := 35.0

/-- The sum of the results of the operators on seven and three, each in its turn. -/
def operationsSum (size : Int) : Except Stop Value := do
  let results ← operatorCycle.mapM fun operator =>
    ((Run.operate (.str operator) (.int 7) (.int 3)).run.run (Machine.fresh quietSettings none)).1
  let numbers ← results.mapM fun result => (result.toFloat).mapError Stop.fault
  let turns := (below size).map fun i => ((numbers.drop (i % operatorCycle.length)).head?).getD 0.0
  return .float (turns.foldl (· + ·) 0.0 + operationsBase)

/-- A variable of a page: a list, a text, a dictionary or an integer, in turn. -/
def pageVariable (i : Nat) : Value × Value :=
  (.str ("v" ++ toString i),
    match i % 4 with
    | 0 => .list [.int i, .int (i + 1)]
    | 1 => .str ("val" ++ toString i)
    | 2 => .record [("k", .int i)]
    | _ => .int i)

/-- How many rounds of pages are made. -/
def pageRounds : Nat := 8

/-- The length of the pages of a round without their variables. -/
def pagesBase : Nat := 24859

/-- The length of all pages. -/
def pagesLength (size : Int) : Except Fault Nat := do
  let lines ← Notebook.stateLines (.dict ((below size).map pageVariable))
  return pageRounds * (pagesBase + total (lines.map fun line => line.length + 1))

/-- The tasks that checks are made on. -/
def taskNodes (size : Int) : List Value :=
  (below size).map fun i => .record [("name", .str ("T" ++ toString i)), ("body", .list [])]

/-- The names of the tasks. -/
def taskNames (size : Int) : List Value :=
  (below size).map fun i => .str ("T" ++ toString i)

/-- A syntax tree of tasks and runs. -/
def checkTree (tasks runs : List Value) : Value :=
  .record [("objective", .str "O"), ("tasks", .list tasks), ("runs", .list runs)]

/-- How many tasks a check finds, or how the message starts with which it refuses. -/
def checkSummary (tree : Value) (source : String) : Value :=
  let verdict := Check.program tree (some source)
  match verdict.outcome with
  | .ok () => .int verdict.defined.length
  | .error (.fault cause) => .str (String.ofList (cause.message.toList.take 15))
  | .error (.report report) => .str (String.ofList (report.message.shown.toList.take 15))

/-- A text without tasks. -/
def taskless : String :=
  String.join (List.replicate 5 "no task lines here\n")

/-- The summaries of some checks, and the places that they point at. -/
def checksResult (size : Int) : Except Fault Value := do
  let source := tasksProgram size
  let tasks := taskNodes size
  let names := taskNames size
  let lastLine ← Check.lastTaskLine (some source) names
  let lineWithoutSource ← Check.lastTaskLine none names
  return .list [checkSummary (checkTree tasks names) source,
    checkSummary (checkTree [] []) source,
    checkSummary (checkTree tasks []) source,
    checkSummary (checkTree tasks names.dropLast) source,
    checkSummary (checkTree tasks (names ++ [.str "Missing"])) source,
    checkSummary (.dict []) source,
    checkSummary (checkTree tasks []) taskless,
    .int lastLine,
    .int (Source.context (some source) 3 Source.snippetWindow).length,
    .str (Source.context none 3 Source.snippetWindow),
    .int lineWithoutSource]

/-- A total over as many reports as the size says. Only the total over none is known. -/
def emptyTotal? (size : Int) : Option Value :=
  if size ≤ 0 then some (.int 0) else none

/-- The result of a workload at a size, if the workload can be run. -/
def result? (workload : Workload) (size : Int) : Option (Except Stop Value) :=
  match workload with
  | .snippets => some (.ok (.int (snippetsLength size)))
  | .phrases => some ((phrasesResult size).mapError Stop.fault)
  | .arithmetic => some do
    let values ← variablesAfter quietSettings (arithmeticProgram size) ["total", "half"]
    return .tuple (values ++ [.int size])
  | .collections => some do
    return .tuple (← variablesAfter quietSettings (collectionsProgram size) ["total", "tag", "cnt"])
  | .choices => some do
    match ← variablesAfter quietSettings (choicesProgram size) ["counts"] with
    | [.list counts] => return .int counts.length
    | _ => return .null
  | .styles => some (stylesResult size)
  | .subtasks => some do
    return (← variablesAfter quietSettings (subtasksProgram size) ["acc"]).headD .null
  | .checks => some ((checksResult size).mapError Stop.fault)
  | .reports | .syntaxReports | .runReports => (emptyTotal? size).map .ok
  | .controlFlow | .cells => none
  | .pages => some (((pagesLength size).map fun length => Value.int length).mapError Stop.fault)
  | .operations => some (operationsSum size)
  | .wholeProgram => some do
    let quiet ← variablesAfter quietSettings wholeProgramText ["total"]
    let explained ← variablesAfter ⟨true, .standard, 3⟩ wholeProgramText ["total"]
    return .list (quiet ++ explained)

end Stepwise.Workload
