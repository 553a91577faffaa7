import Stepwise.Proofs.Course.Basic

/-!
# The course of a program

The courses of terms, actions and tasks.  Each is written like the computation of the same name in
`Stepwise.Run`, with its steps recorded; what differs is how a return goes through it.  Lists of actions
and loops go on without a look at any result.  An action returns where it is a return, and where it is a
call whose value is tagged as one.
-/

namespace Stepwise.Course

open Run (lift fault fail note indentBy explainedIndentBy)

/-! ## Terms -/

/-- Calls a function that is not built in: `call` runs a subtask. -/
def callSubtask (call : Value → Course Value) (function : Value) : Course Value := do
  let key ← step (lift function.asKey)
  if Table.holds key (← step get).subtasks then call key
  else
    match function with
    | .str name =>
      let spelled := Value.str (Run.spelledSubtask name)
      if Table.holds spelled (← step get).subtasks then call spelled
      else
        let machine ← step get
        step (fail (.unknownFunction function
          (Run.builtinNames.map .str ++ Table.keys machine.subtasks) machine.variables))
    | _ => step (fault (.missingMember function.typeName "replace"))

/-- Calls a function: `call` runs a subtask. -/
def callFunction (call : Value → Course Value) (function : Value) (arguments : List Value) :
    Course Value :=
  match function with
  | .str name =>
    match Run.builtin? name with
    | some run => step (run arguments)
    | none => callSubtask call function
  | _ => callSubtask call function

mutual

/-- The value of a term. -/
def eval (call : Value → Course Value) : Term → Course Value
  | .const value => pure value
  | .var name => step (Run.readVariable name)
  | .fault cause => step (fault cause)
  | .after first last => do
    let _ ← eval call first
    eval call last
  | .list items => do return .list (← evalItems call items)
  | .dict entries => do return .dict (← evalEntries call entries [])
  | .index container key => do
    let container ← eval call container
    let key ← eval call key
    step (Run.index container key)
  | .negate operand => do step (lift (← eval call operand).negate)
  | .binary operator left right => do
    let left ← eval call left
    let right ← eval call right
    step (Run.operate operator left right)
  | .call function arguments => do callFunction call function (← evalAll call arguments)

/-- The values of several terms. -/
def evalAll (call : Value → Course Value) : List Term → Course (List Value)
  | [] => pure []
  | term :: rest => do
    let value ← eval call term
    return value :: (← evalAll call rest)

/-- The items of a list. -/
def evalItems (call : Value → Course Value) : List Term → Course (List Value)
  | [] => pure []
  | term :: rest => do
    let value ← step (lift (← eval call term).unwrapped)
    return value :: (← evalItems call rest)

/-- The entries of a dictionary. -/
def evalEntries (call : Value → Course Value) :
    List (Term × Term) → (stored : Table Value) → Course (Table Value)
  | [], stored => pure stored
  | (key, value) :: rest, stored => do
    let key ← eval call key
    let value ← eval call value
    let key ← step (lift key.unwrapped)
    let value ← step (lift value.unwrapped)
    let key ← step (lift key.asKey)
    evalEntries call rest (Table.store key value stored)

end

/-- The value of a test. -/
def evalTest (call : Value → Course Value) : Test → Course Value
  | .operation left right operator => do
    let left ← eval call left
    let right ← eval call right
    let operator ← step (lift operator)
    step <| Run.noteSaying "CHECK" do
      return "Checking if " ++ (← left.say) ++ " " ++ (← operator.say) ++ " " ++ (← right.say)
    let left ← eval call (Term.ofNode left)
    let right ← eval call (Term.ofNode right)
    let value ← step (Run.operate operator left right)
    step (Run.noteSaying "RESULT" do return "Condition evaluates to: " ++ (← value.say))
    return value
  | .plain term node => do
    let value ← eval call term
    step (Run.noteSaying "CHECK" do return "Checking condition: " ++ (← node.say))
    step (Run.noteSaying "RESULT" do return "Condition evaluates to: " ++ (← value.say))
    return value

/-! ## Assignments, loops and branches -/

/-- Stores the value of an assignment and notes it. -/
def assignTo (target : Except Fault Value) (value : Value) : Course Unit := do
  let value ← step (lift value.unwrapped)
  let target ← step (lift target)
  step (Run.assign target value)
  let shown ← step (lift (Run.noteText value))
  let name ← step (lift target.say)
  step (note "VARIABLE" ("Assigned " ++ shown ++ " to " ++ name))

/-- Goes through a body for each item of a list, with the number of items before it. -/
def forItems (body : Nat → Value → Course Unit) : List Value → (number : Nat) → Course Unit
  | [], _ => pure ()
  | item :: items, number => do
    body number item
    forItems body items (number + 1)

/-- Goes through a body for each integer of a range. -/
def forSpan (body : Nat → Value → Course Unit) (gap : Int) :
    (count : Nat) → (start : Int) → (number : Nat) → Course Unit
  | 0, _, _ => pure ()
  | count + 1, start, number => do
    body number (.int start)
    forSpan body gap count (start + gap) (number + 1)

/-- Goes through a body for each of the next items of an enumeration. -/
def forCursor (body : Nat → Value → Course Unit) (cursor : Nat) :
    (count : Nat) → (number : Nat) → Course Unit
  | 0, _ => pure ()
  | count + 1, number => do
    match ← step (Run.takeCursor? cursor) with
    | none => pure ()
    | some item =>
      body number item
      forCursor body cursor count (number + 1)

/-- Goes through a body for each item of a supply. -/
def forSupply (supply : Supply) (body : Nat → Value → Course Unit) : Course Unit :=
  match supply with
  | .feed (.items items) => forItems body items 0
  | .feed (.span start gap count) => forSpan body gap count start 0
  | .cursor number => do
    forCursor body number (Cursor.remaining (← step get).cursors (number + 1) number) 0

/-- The iterations of a loop and what follows the last one.  A return takes the indentation back
too. -/
def closing (complete : Run Unit) (iterations : Course Unit) : Course Unit := do
  afterReturn iterations (step (explainedIndentBy (-1)))
  step complete
  step (explainedIndentBy (-1))

/-- A loop over items of a supply. -/
def loopDirect (item node : Value) (supply : Supply) (body : Course Unit) : Course Unit := do
  step (Run.openLoop node)
  closing Run.completeLoop <| forSupply supply fun _ value => do
    step (Run.assign item value)
    step (Run.noteIteration fun count => Run.iterationNote count item value)
    body

/-- A loop over items of a supply that also assigns their numbers. -/
def loopEnumerated (index element node : Value) (supply : Supply) (body : Course Unit) :
    Course Unit := do
  step (Run.openLoop node)
  closing Run.completeLoop <| forSupply supply fun number value => do
    step (Run.assign index (.int number))
    step (Run.assign element value)
    step (Run.noteIteration fun count => Run.numberedNote count index (.int number) element value)
    body

/-- What a loop over items draws on and how it goes. -/
def loopOver (item : Value) (source : LoopFeed) (body : Course Unit) : Course Unit := do
  match source with
  | .direct name =>
    match ← step (Run.valueNamed? name) with
    | none => step (do fail (.undefinedLoopVariable name (Table.keys (← get).variables)))
    | some value =>
      match value.supply? with
      | none => step (fail (.notLoopable name value))
      | some supply => loopDirect item name supply body
  | .enumerated name element node =>
    match ← step (Run.valueNamed? name) with
    | none => step (fail (.undefinedEnumerated name))
    | some value =>
      let supply ← step (Run.supplyOf value)
      let element ← step (lift element)
      loopEnumerated item element node supply body

/-- A loop over the integers below a bound. -/
def loopBelow (item bound : Value) (body : Course Unit) : Course Unit := do
  let stop ← step (lift bound.bound)
  step (Run.openRange (.range 0 stop 1))
  let count := stop.toNat
  closing (note "COMPLETE" ("Loop finished after " ++ toString count ++ " iterations")) <|
    forSupply (.feed (.span 0 1 count)) fun number value => do
      step (Run.assign item value)
      step (Run.noteRangeIteration count number item value)
      body

/-- A loop over items with their numbers. -/
def loopNumbered (index element : Except Fault Value) (name : Value) (body : Course Unit) :
    Course Unit := do
  match ← step (Run.valueNamed? name) with
  | none => step (fail (.undefinedEnumerated name))
  | some value =>
    match value.supply? with
    | none =>
      let _ ← step (lift name.say)
      step (fault (.missingMember value.typeName "__name__"))
    | some supply =>
      step (Run.openNumbered name)
      closing (note "COMPLETE" "Loop finished") <| forSupply supply fun number item => do
        let index ← step (lift index)
        step (Run.assign index (.int number))
        let element ← step (lift element)
        step (Run.assign element item)
        step <| Run.whenShown number
          (Run.noteSaying "ITERATION" (Run.numberedNote number index (.int number) element item))
        body

/-- Takes a branch.  A return takes the indentation of the choice back as well. -/
def takeBranch (message : String) (body : Course Unit) : Course Unit := do
  step (note "BRANCH" message)
  step (explainedIndentBy 1)
  afterReturn body (step (explainedIndentBy (-2)))
  recordBranchEnd
  step (explainedIndentBy (-1))

/-! ## Actions -/

mutual

/-- Executes an action. -/
def exec (call : Value → Course Value) : Action → Course Unit
  | .skip => pure ()
  | .fault cause => step (fault cause)
  | .assign target value => do
    let value ← eval call value
    assignTo target value
  | .call term => do
    let value ← eval call term
    if value.hasTag Value.returnTag then leave (value.part "value")
  | .yield value => do leave (.ok (← eval call value))
  | .decide branches => do
    step Run.openChoice
    execBranches call branches
  | .forEach item source body => loopOver item source (execBody call body)
  | .forRange item bound body => do loopBelow item (← eval call bound) (execBody call body)
  | .forEnumerated index element collection body =>
    loopNumbered index element collection (execBody call body)

/-- Executes actions one after the other. -/
def execBody (call : Value → Course Value) : List Action → Course Unit
  | [] => pure ()
  | action :: rest => do
    exec call action
    execBody call rest

/-- Executes the first branch whose test holds. -/
def execBranches (call : Value → Course Value) : List Branch → Course Unit
  | [] => step (explainedIndentBy (-1))
  | .fault cause :: _ => step (fault cause)
  | .test isFirst test body :: rest => do
    let value ← evalTest call test
    if value.isTrue then
      takeBranch ("Taking " ++ (if isFirst then "if" else "elif") ++ " branch") (execBody call body)
    else execBranches call rest
  | .otherwise body :: _ =>
    takeBranch "No conditions were true, taking else branch" (execBody call body)

end

/-- Executes all the actions of a step; a return leaves one of them only. -/
def execAll (call : Value → Course Value) : List Action → Course Unit
  | [] => pure ()
  | action :: rest => do
    contained (exec call action)
    execAll call rest

/-! ## Subtasks, tasks and programs -/

/-- Runs the body of a subtask, which is where its returns end. -/
def runSubtaskBody (call : Value → Course Value) (body : List Action) : Course Value :=
  handedBack do
    afterReturn (execBody call body) (step (indentBy (-1)))
    step (indentBy (-1))

/-- Runs a subtask of the machine.  The number bounds how deeply calls may be nested in it. -/
def runSubtask : (depth : Nat) → (name : Value) → Course Value
  | 0, _ => step (fault .callsTooDeep)
  | depth + 1, name => do
    let key ← step (lift name.asKey)
    match Table.fetch? key (← step get).subtasks with
    | none => step (do fail (.unknownSubtask name (Table.keys (← get).subtasks)))
    | some body =>
      let shown ← step (lift name.say)
      step (note "SUBTASK" ("Executing " ++ shown))
      step (indentBy 1)
      runSubtaskBody (runSubtask depth) body

/-- Runs a step. -/
def runStep (call : Value → Course Value) (code : StepCode) : Course Unit := do
  let name ← step (lift code.name)
  let shown ← step (lift name.say)
  step (note "STEP" ("Executing " ++ shown))
  step (indentBy 1)
  execAll call code.body
  step (indentBy (-1))

/-- Runs the parts of a task. -/
def runItems (call : Value → Course Value) : List TaskItem → Course Unit
  | [] => pure ()
  | .fault cause :: _ => step (fault cause)
  | .step code :: rest => do
    runStep call code
    runItems call rest
  | .subtask name _ :: rest => do
    let name ← step (lift name)
    let _ ← call name
    runItems call rest
  | .other :: rest => runItems call rest

/-- Runs a task of the machine. -/
def runTask (call : Value → Course Value) (name : Value) : Course Unit := do
  let key ← step (lift name.asKey)
  match Table.fetch? key (← step get).tasks with
  | none => step (do fail (.unknownTask name (Table.keys (← get).tasks)))
  | some items =>
    let shown ← step (lift name.say)
    step (note "TASK" ("Executing " ++ shown))
    step (indentBy 1)
    runItems call items
    step (indentBy (-1))

/-- Runs several tasks. -/
def runTasks (call : Value → Course Value) : List Value → Course Unit
  | [] => pure ()
  | name :: rest => do
    runTask call name
    runTasks call rest

/-- Checks a syntax tree and executes it. -/
def executeChecked (tree : Value) : Course Unit := do
  step (Run.passing (Check.program tree (← step get).source).outcome)
  step (Run.announce tree)
  step (Run.registerTasks (← step (lift (tree.part "tasks"))))
  let runs ← step (lift (tree.part "runs"))
  runTasks (runSubtask Run.maxDepth) (← step (lift runs.elements))

/-- Executes a syntax tree.  A fault becomes a report that shows the variables. -/
def execute (tree : Value) : Course Unit :=
  tryCatch (executeChecked tree) fun exit =>
    match exit with
    | .stopped (.fault cause) => step (do fail (.broken cause (← get).variables))
    | exit => throw exit

end Stepwise.Course
