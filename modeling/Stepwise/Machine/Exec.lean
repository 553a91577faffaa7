import Stepwise.Check
import Stepwise.Machine.Eval

/-!
# Execution of actions

The result of an action is a value: null as a rule, the value of a call, and for a return a dictionary
that is tagged as one. A list of actions ends at the first result with that tag, whichever action it
comes from.

What a call of a subtask does is a parameter here too. `runSubtask` closes the circle: with a bound on
how deeply calls may be nested, each call passes a smaller bound on.
-/

namespace Stepwise.Run

/-- The result of an action that returns a value. -/
def returned (value : Value) : Value :=
  .record [("type", .str Value.returnTag), ("value", value)]

/-- Whether a result ends the actions around it. -/
def endsBody (result : Value) : Bool :=
  result.hasTag Value.returnTag

/-- A value in an assignment's note. -/
def noteText (value : Value) : Except Fault String :=
  match value with
  | .str text => .ok ("\"" ++ text ++ "\"")
  | value => value.say

/-- Stores the value of an assignment and notes it. -/
def assignTo (target : Except Fault Value) (value : Value) : Run Value := do
  let value ← lift value.unwrapped
  let target ← lift target
  assign target value
  let shown ← lift (noteText value)
  let name ← lift target.say
  note "VARIABLE" ("Assigned " ++ shown ++ " to " ++ name)
  return .null

/-- Notes a text about values if the machine explains itself; only then the values need texts. -/
def noteSaying (category : String) (message : Except Fault String) : Run Unit :=
  whenExplaining do note category (← lift message)

/-- Does something for an iteration that is noted one by one. -/
def whenShown (number : Int) (action : Run Unit) : Run Unit := do
  let settings := (← get).settings
  if settings.explain && number < settings.shownIterations then action

/-- Does something for the first iteration that is not noted, given how many are. -/
def whenCut (number : Int) (action : Int → Run Unit) : Run Unit := do
  let settings := (← get).settings
  if settings.explain && number == settings.shownIterations then action settings.shownIterations

/-- Ends a loop: after a return only the indentation is taken back. -/
def closeLoop (result : Value) (closing : Run Unit) : Run Value := do
  if endsBody result then
    explainedIndentBy (-1)
    return result
  else
    closing
    explainedIndentBy (-1)
    return .null

/-- The text of a variable with its value. -/
def binding (name value : Value) : Except Fault String := do
  return (← name.say) ++ " = " ++ (← value.say)

/-- The head of a note on an iteration. -/
def iterationHead (number : Int) : String :=
  "Loop #" ++ toString (number + 1) ++ ": "

/-- The note on an iteration that assigns one variable. -/
def iterationNote (number : Int) (name value : Value) : Except Fault String := do
  return iterationHead number ++ (← binding name value)

/-- The note on an iteration that assigns a number and an item. -/
def numberedNote (number : Int) (index position element value : Value) : Except Fault String := do
  return iterationHead number ++ (← binding index position) ++ ", " ++ (← binding element value)

/-- The iterations that all loops over items count together. -/
def countedIterations : Run Int := do
  return (← get).iterations

/-- Sets the count of iterations. -/
def setIterations (count : Nat) : Run Unit :=
  modify fun machine => { machine with iterations := count }

/-- Counts an iteration. -/
def countIteration : Run Unit :=
  modify fun machine => { machine with iterations := machine.iterations + 1 }

/-- Notes an iteration of a loop over items, if it is among the first, and then counts it. -/
def noteIteration (message : Int → Except Fault String) : Run Unit := do
  let count ← countedIterations
  whenShown count (noteSaying "ITERATION" (message count))
  whenCut count fun _ => note "INFO" "... more iterations will be processed ..."
  countIteration

/-- Opens a loop over items. -/
def openLoop (node : Value) : Run Unit :=
  whenExplaining do
    noteSaying "LOOP" do
      return "Starting a loop that will go through each item in " ++ (← node.say)
    indentBy 1
    setIterations 0

/-- Closes a loop over items that ran to its end. -/
def completeLoop : Run Unit := do
  note "COMPLETE" ("Loop finished after " ++ toString (← get).iterations ++ " iterations")

/-- A loop over items of a supply. -/
def loopDirect (item : Value) (node : Value) (supply : Supply) (body : Run Value) : Run Value := do
  openLoop node
  let result ← forSupply supply fun _ value => do
    assign item value
    noteIteration fun count => iterationNote count item value
    body
  closeLoop result completeLoop

/-- A loop over items of a supply that also assigns their numbers. -/
def loopEnumerated (index element : Value) (node : Value) (supply : Supply) (body : Run Value) :
    Run Value := do
  openLoop node
  let result ← forSupply supply fun number value => do
    assign index (.int number)
    assign element value
    noteIteration fun count => numberedNote count index (.int number) element value
    body
  closeLoop result completeLoop

/-- What a loop over items draws on and how it goes. -/
def loopOver (item : Value) (source : LoopFeed) (body : Run Value) : Run Value := do
  match source with
  | .direct name =>
    match ← valueNamed? name with
    | none => fail (.undefinedLoopVariable name (Table.keys (← get).variables))
    | some value =>
      match value.supply? with
      | none => fail (.notLoopable name value)
      | some supply => loopDirect item name supply body
  | .enumerated name element node =>
    match ← valueNamed? name with
    | none => fail (.undefinedEnumerated name)
    | some value =>
      let supply ← supplyOf value
      let element ← lift element
      loopEnumerated item element node supply body

/-- Opens a loop over a range. -/
def openRange (range : Value) : Run Unit :=
  whenExplaining do
    let length := toString (← lift range.length)
    note "LOOP" ("Starting range loop from 0 to " ++ length)
    note "INFO" ("Total iterations: " ++ length)
    indentBy 1

/-- Notes an iteration of a loop over a range of `count` integers. -/
def noteRangeIteration (count number : Nat) (item value : Value) : Run Unit := do
  whenShown number (noteSaying "ITERATION" (iterationNote number item value))
  whenCut number fun shown =>
    note "INFO" ("... " ++ toString ((count : Int) - shown) ++ " more iterations will be processed ...")

/-- A loop over the integers below a bound. -/
def loopBelow (item bound : Value) (body : Run Value) : Run Value := do
  let stop ← lift bound.bound
  openRange (.range 0 stop 1)
  let count := stop.toNat
  let result ← forSupply (.feed (.span 0 1 count)) fun number value => do
    assign item value
    noteRangeIteration count number item value
    body
  closeLoop result (note "COMPLETE" ("Loop finished after " ++ toString count ++ " iterations"))

/-- The fault of a loop with numbers over something that is no collection: its report asks the value
for a name that only types have. -/
def notNumbered (name value : Value) : Run Value := do
  let _ ← lift name.say
  fault (.missingMember value.typeName "__name__")

/-- Opens a loop over items with their numbers. -/
def openNumbered (name : Value) : Run Unit :=
  whenExplaining do
    noteSaying "LOOP" do return "Starting enumerate loop over " ++ (← name.say)
    indentBy 1

/-- A loop over items with their numbers, as a statement. -/
def loopNumbered (index element : Except Fault Value) (name : Value) (body : Run Value) :
    Run Value := do
  match ← valueNamed? name with
  | none => fail (.undefinedEnumerated name)
  | some value =>
    match value.supply? with
    | none => notNumbered name value
    | some supply =>
      openNumbered name
      let result ← forSupply supply fun number item => do
        let index ← lift index
        assign index (.int number)
        let element ← lift element
        assign element item
        whenShown number
          (noteSaying "ITERATION" (numberedNote number index (.int number) element item))
        body
      closeLoop result (note "COMPLETE" "Loop finished")

/-- Notes an iteration of a loop that announces how many are left. -/
def noteCountedIteration (collection index element : Value) (number : Nat) (item : Value) :
    Run Unit := do
  if ← explains then
    let shown := (← get).settings.shownIterations
    if (number : Int) < shown then
      noteSaying "ITERATION" (numberedNote number index (.int number) element item)
    else if (number : Int) == shown then
      let length ← lift collection.length
      note "INFO" ("... " ++ toString ((length : Int) - shown) ++
        " more iterations will be processed ...")
    else
      let length ← lift collection.length
      if number + 1 == length then
        noteSaying "INFO" do
          return "Final iteration completed: " ++ (← binding index (.int number)) ++ ", " ++
            (← binding element item)

/-- A loop over items with their numbers that announces the number of items. -/
def loopAnnounced (index element name : Value) (body : Run Value) : Run Value := do
  match ← valueNamed? name with
  | none => fail (.undefinedNumbered name (Table.keys (← get).variables))
  | some value =>
    match value.supply? with
    | none => fail (.notNumberable name value)
    | some supply =>
      if ← explains then
        noteSaying "LOOP" do return "Starting an enumerate loop over " ++ (← name.say)
        let length ← lift value.length
        note "INFO" ("Total number of items to process: " ++ toString length)
        indentBy 1
      let result ← forSupply supply fun number item => do
        assign index (.int number)
        assign element item
        noteCountedIteration value index element number item
        body
      closeLoop result do
        if ← explains then
          let length ← lift value.length
          note "COMPLETE" ("Loop finished after processing " ++ toString length ++ " items")

/-- The value of a test. The operands of an operation are evaluated, and their values are read as
terms and evaluated once more. -/
def evalTest (call : Value → Run Value) : Test → Run Value
  | .operation left right operator => do
    let left ← eval call left
    let right ← eval call right
    let operator ← lift operator
    noteSaying "CHECK" do
      return "Checking if " ++ (← left.say) ++ " " ++ (← operator.say) ++ " " ++ (← right.say)
    let left ← eval call (Term.ofNode left)
    let right ← eval call (Term.ofNode right)
    let value ← operate operator left right
    noteSaying "RESULT" do return "Condition evaluates to: " ++ (← value.say)
    return value
  | .plain term node => do
    let value ← eval call term
    noteSaying "CHECK" do return "Checking condition: " ++ (← node.say)
    noteSaying "RESULT" do return "Condition evaluates to: " ++ (← value.say)
    return value

/-- Takes a branch. After a return the indentation of the choice is taken back as well; otherwise only
that of the branch is. -/
def takeBranch (message : String) (body : Run Value) : Run Value := do
  note "BRANCH" message
  explainedIndentBy 1
  let result ← body
  if endsBody result then
    explainedIndentBy (-2)
    return result
  else
    explainedIndentBy (-1)
    return .null

/-- Opens a choice. -/
def openChoice : Run Unit :=
  whenExplaining do
    note "DECISION" "Starting a conditional block"
    indentBy 1

mutual

/-- Executes an action. -/
def exec (call : Value → Run Value) : Action → Run Value
  | .skip => pure .null
  | .fault cause => fault cause
  | .assign target value => do assignTo target (← eval call value)
  | .call term => eval call term
  | .yield value => do return returned (← eval call value)
  | .decide branches => do
    openChoice
    execBranches call branches
  | .forEach item source body => loopOver item source (execBody call body)
  | .forRange item bound body => do loopBelow item (← eval call bound) (execBody call body)
  | .forEnumerated index element collection body =>
    loopNumbered index element collection (execBody call body)

/-- Executes actions up to the first one that results in a return. -/
def execBody (call : Value → Run Value) : List Action → Run Value
  | [] => pure .null
  | action :: rest => do
    let result ← exec call action
    if endsBody result then return result else execBody call rest

/-- Executes the first branch whose test holds. -/
def execBranches (call : Value → Run Value) : List Branch → Run Value
  | [] => do
    explainedIndentBy (-1)
    return .null
  | .fault cause :: _ => fault cause
  | .test isFirst test body :: rest => do
    let value ← evalTest call test
    if value.isTrue then
      takeBranch ("Taking " ++ (if isFirst then "if" else "elif") ++ " branch") (execBody call body)
    else execBranches call rest
  | .otherwise body :: _ =>
    takeBranch "No conditions were true, taking else branch" (execBody call body)

end

/-- Executes all the actions of a step; their results do not matter. -/
def execAll (call : Value → Run Value) : List Action → Run Unit
  | [] => pure ()
  | action :: rest => do
    let _ ← exec call action
    execAll call rest

/-- Runs the body of a subtask. -/
def runSubtaskBody (call : Value → Run Value) (body : List Action) : Run Value := do
  let result ← execBody call body
  indentBy (-1)
  if endsBody result then lift (result.part "value") else return .null

/-- Runs a subtask of the machine. The number bounds how deeply calls may be nested in it. -/
def runSubtask : (depth : Nat) → (name : Value) → Run Value
  | 0, _ => fault .callsTooDeep
  | depth + 1, name => do
    let key ← lift name.asKey
    match Table.fetch? key (← get).subtasks with
    | none => fail (.unknownSubtask name (Table.keys (← get).subtasks))
    | some body =>
      let shown ← lift name.say
      note "SUBTASK" ("Executing " ++ shown)
      indentBy 1
      runSubtaskBody (runSubtask depth) body

/-- Runs a step. -/
def runStep (call : Value → Run Value) (step : StepCode) : Run Unit := do
  let name ← lift step.name
  let shown ← lift name.say
  note "STEP" ("Executing " ++ shown)
  indentBy 1
  execAll call step.body
  indentBy (-1)

/-- Runs the parts of a task. -/
def runItems (call : Value → Run Value) : List TaskItem → Run Unit
  | [] => pure ()
  | .fault cause :: _ => fault cause
  | .step step :: rest => do
    runStep call step
    runItems call rest
  | .subtask name _ :: rest => do
    let name ← lift name
    let _ ← call name
    runItems call rest
  | .other :: rest => runItems call rest

/-- Runs a task of the machine. -/
def runTask (call : Value → Run Value) (name : Value) : Run Unit := do
  let key ← lift name.asKey
  match Table.fetch? key (← get).tasks with
  | none => fail (.unknownTask name (Table.keys (← get).tasks))
  | some items =>
    let shown ← lift name.say
    note "TASK" ("Executing " ++ shown)
    indentBy 1
    runItems call items
    indentBy (-1)

/-- Registers the subtasks among the parts of a task. -/
def registerItems : List TaskItem → Run Unit
  | [] => pure ()
  | .fault cause :: _ => fault cause
  | .subtask name body :: rest => do
    let name ← lift name
    let key ← lift name.asKey
    modify fun machine => { machine with subtasks := Table.store key body machine.subtasks }
    registerItems rest
  | _ :: rest => registerItems rest

/-- Registers a task and its subtasks. -/
def registerTask (task : Value) : Run Unit := do
  let name ← lift (task.part "name")
  let key ← lift name.asKey
  let items := TaskItem.itemsOf task
  modify fun machine => { machine with tasks := Table.store key items machine.tasks }
  registerItems items

/-- Registers several tasks. -/
def registerAll : List Value → Run Unit
  | [] => pure ()
  | task :: rest => do
    registerTask task
    registerAll rest

/-- Registers the tasks that running through a value gives. -/
def registerTasks (tasks : Value) : Run Unit := do
  registerAll (← lift tasks.elements)

/-- Runs several tasks. -/
def runTasks (call : Value → Run Value) : List Value → Run Unit
  | [] => pure ()
  | name :: rest => do
    runTask call name
    runTasks call rest

/-- How deeply calls of subtasks may be nested. -/
def maxDepth : Nat := 245

/-- Runs a subtask as deeply nested as the machine allows. -/
def call : Value → Run Value :=
  runSubtask maxDepth

/-- The outcome of a check. -/
def passing : Except Stop Unit → Run Unit
  | .ok () => pure ()
  | .error stop => throw stop

/-- Announces the objective of a program. -/
def announce (tree : Value) : Run Unit :=
  whenExplaining do
    let objective ← lift (tree.part "objective")
    let shown ← lift objective.say
    emit (.opening (← get).indent shown)

/-- Checks a syntax tree and executes it. -/
def executeChecked (tree : Value) : Run Unit := do
  passing (Check.program tree (← get).source).outcome
  announce tree
  registerTasks (← lift (tree.part "tasks"))
  runTasks call (← lift ((← lift (tree.part "runs")).elements))

/-- Executes a syntax tree. A fault becomes a report that shows the variables. -/
def execute (tree : Value) : Run Unit :=
  tryCatch (executeChecked tree) fun stop =>
    match stop with
    | .report report => throw (.report report)
    | .fault cause => do fail (.broken cause (← get).variables)

end Stepwise.Run
