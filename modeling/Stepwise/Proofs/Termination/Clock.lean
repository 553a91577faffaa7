import Stepwise.Proofs.Changes

/-!
# Runs against a clock

A second semantics of the code, which assumes nothing about whether runs end.  Every evaluation,
execution, iteration and call uses up fuel, and a run that has none left has no outcome at all.  A loop
asks for items until there are none, and calls of subtasks may be nested without a bound.

The same interpreter can watch the calls: with some `room` it halts as soon as more calls are active at
once than there is room for.
-/

namespace Stepwise

/-- Why a run against a clock ends without a value. -/
inductive Halt where
  | stopped (stop : Stop)
  /-- There is no room for another active call. -/
  | exceeded

/-- A computation on a machine that may run out of fuel. -/
abbrev Clocked (α : Type) := ExceptT Halt (StateT Machine Option) α

/-! ## Loops in two parts -/

/-- A loop that is about to go through its items: what it does with each one before its body, and how it
is closed when no return has ended it. -/
structure Loop where
  supply : Supply
  prepare : Nat → Value → Run Unit
  closing : Run Unit
  moves : ∀ number item, (prepare number item).Moves

namespace Run

/-- Goes through the items of a loop. -/
def runLoop (loop : Loop) (body : Run Value) : Run Value := do
  let result ← forSupply loop.supply fun number item => do
    loop.prepare number item
    body
  closeLoop result loop.closing

/-- Starts a loop over items of a supply. -/
def startDirect (item node : Value) (supply : Supply) : Run Loop := do
  openLoop node
  return {
    supply
    prepare := fun _ value => do
      assign item value
      noteIteration fun count => iterationNote count item value
    closing := completeLoop
    moves := fun _ _ => (moves_assign _ _).bind fun _ => moves_noteIteration _ }

/-- Starts a loop over items of a supply with their numbers. -/
def startEnumerated (index element node : Value) (supply : Supply) : Run Loop := do
  openLoop node
  return {
    supply
    prepare := fun number value => do
      assign index (.int number)
      assign element value
      noteIteration fun count => numberedNote count index (.int number) element value
    closing := completeLoop
    moves := fun _ _ => (moves_assign _ _).bind fun _ => (moves_assign _ _).bind fun _ =>
      moves_noteIteration _ }

/-- Starts a loop over what a variable holds. -/
def startOver (item : Value) (source : LoopFeed) : Run Loop := do
  match source with
  | .direct name =>
    match ← valueNamed? name with
    | none => fail (.undefinedLoopVariable name (Table.keys (← get).variables))
    | some value =>
      match value.supply? with
      | none => fail (.notLoopable name value)
      | some supply => startDirect item name supply
  | .enumerated name element node =>
    match ← valueNamed? name with
    | none => fail (.undefinedEnumerated name)
    | some value =>
      let supply ← supplyOf value
      let element ← lift element
      startEnumerated item element node supply

/-- Starts a loop over the integers below a bound. -/
def startBelow (item bound : Value) : Run Loop := do
  let stop ← lift bound.bound
  openRange (.range 0 stop 1)
  let count := stop.toNat
  return {
    supply := .feed (.span 0 1 count)
    prepare := fun number value => do
      assign item value
      noteRangeIteration count number item value
    closing := note "COMPLETE" ("Loop finished after " ++ toString count ++ " iterations")
    moves := fun _ _ => (moves_assign _ _).bind fun _ => moves_noteRangeIteration _ _ _ _ }

/-- Starts a loop over items with their numbers, as a statement. -/
def startNumbered (index element : Except Fault Value) (name : Value) : Run Loop := do
  match ← valueNamed? name with
  | none => fail (.undefinedEnumerated name)
  | some value =>
    match value.supply? with
    | none =>
      let _ ← lift name.say
      fault (.missingMember value.typeName "__name__")
    | some supply =>
      openNumbered name
      return {
        supply
        prepare := fun number item => do
          let index ← lift index
          assign index (.int number)
          let element ← lift element
          assign element item
          whenShown number
            (noteSaying "ITERATION" (numberedNote number index (.int number) element item))
        closing := note "COMPLETE" "Loop finished"
        moves := fun _ _ => (moves_lift _).bind fun _ => (moves_assign _ _).bind fun _ =>
          (moves_lift _).bind fun _ => (moves_assign _ _).bind fun _ =>
            moves_whenShown _ (moves_noteSaying _ _) }

theorem moves_startDirect (item node : Value) (supply : Supply) :
    Moves (startDirect item node supply) :=
  (moves_openLoop _).bind fun _ => moves_pure _

theorem moves_startEnumerated (index element node : Value) (supply : Supply) :
    Moves (startEnumerated index element node supply) :=
  (moves_openLoop _).bind fun _ => moves_pure _

theorem moves_startOver (item : Value) (source : LoopFeed) : Moves (startOver item source) := by
  cases source with
  | direct name =>
      refine (moves_valueNamed? name).bind fun found => ?_
      cases found with
      | none => exact moves_get_bind fun _ => moves_throw _
      | some value =>
          dsimp only
          split
          · exact moves_throw _
          · exact moves_startDirect _ _ _
  | enumerated name element node =>
      refine (moves_valueNamed? name).bind fun found => ?_
      cases found with
      | none => exact moves_throw _
      | some value =>
          exact (still_supplyOf value).moves.bind fun _ => (moves_lift _).bind fun _ =>
            moves_startEnumerated _ _ _ _

theorem moves_startBelow (item bound : Value) : Moves (startBelow item bound) :=
  (moves_lift _).bind fun _ => (moves_openRange _).bind fun _ => moves_pure _

theorem moves_startNumbered (index element : Except Fault Value) (name : Value) :
    Moves (startNumbered index element name) := by
  refine (moves_valueNamed? name).bind fun found => ?_
  cases found with
  | none => exact moves_throw _
  | some value =>
      dsimp only
      split
      · exact (moves_lift _).bind fun _ => moves_throw _
      · exact (moves_openNumbered name).bind fun _ => moves_pure _

theorem loopOver_eq (item : Value) (source : LoopFeed) (body : Run Value) :
    loopOver item source body = startOver item source >>= fun loop => runLoop loop body := by
  cases source with
  | direct name =>
      simp only [loopOver, startOver, bind_assoc]
      congr 1
      funext found
      cases found with
      | none => rfl
      | some value =>
          dsimp only
          cases value.supply? with
          | none => rfl
          | some supply =>
              simp only [loopDirect, startDirect, runLoop, bind_assoc, pure_bind]
  | enumerated name element node =>
      simp only [loopOver, startOver, bind_assoc]
      congr 1
      funext found
      cases found with
      | none => rfl
      | some value =>
          simp only [loopEnumerated, startEnumerated, runLoop, bind_assoc, pure_bind]

theorem loopBelow_eq (item bound : Value) (body : Run Value) :
    loopBelow item bound body = startBelow item bound >>= fun loop => runLoop loop body := by
  simp only [loopBelow, startBelow, runLoop, bind_assoc, pure_bind]

theorem loopNumbered_eq (index element : Except Fault Value) (name : Value) (body : Run Value) :
    loopNumbered index element name body =
      startNumbered index element name >>= fun loop => runLoop loop body := by
  simp only [loopNumbered, startNumbered, bind_assoc]
  congr 1
  funext found
  cases found with
  | none => rfl
  | some value =>
      dsimp only
      cases value.supply? with
      | none => simp only [notNumbered, bind_assoc]; rfl
      | some supply => simp only [runLoop, bind_assoc, pure_bind]

/-! ## Other parts of the interpreter -/

/-- The next item of a supply, and what is left of it. -/
def draw? : Supply → Run (Option (Value × Supply))
  | .feed feed => pure (feed.next?.map fun (item, rest) => (item, .feed rest))
  | .cursor number => do return (← takeCursor? number).map fun item => (item, .cursor number)

/-- Enters a branch. -/
def openBranch (message : String) : Run Unit := do
  note "BRANCH" message
  explainedIndentBy 1

/-- Leaves a branch. -/
def closeBranch (result : Value) : Run Value := do
  if endsBody result then
    explainedIndentBy (-2)
    return result
  else
    explainedIndentBy (-1)
    return .null

/-- Enters a subtask, with its body as the result. -/
def openSubtask (name : Value) : Run (List Action) := do
  let key ← lift name.asKey
  match Table.fetch? key (← get).subtasks with
  | none => fail (.unknownSubtask name (Table.keys (← get).subtasks))
  | some body =>
    let shown ← lift name.say
    note "SUBTASK" ("Executing " ++ shown)
    indentBy 1
    return body

/-- Leaves a subtask. -/
def closeSubtask (result : Value) : Run Value := do
  indentBy (-1)
  if endsBody result then lift (result.part "value") else return .null

/-- The key of the subtask that a function name means. -/
def resolve (function : Value) : Run Value := do
  let key ← lift function.asKey
  if Table.holds key (← get).subtasks then return key
  else
    match function with
    | .str name =>
      let spelled := Value.str (spelledSubtask name)
      if Table.holds spelled (← get).subtasks then return spelled
      else
        let machine ← get
        fail (.unknownFunction function
          (builtinNames.map .str ++ Table.keys machine.subtasks) machine.variables)
    | _ => fault (.missingMember function.typeName "replace")

theorem moves_openSubtask (name : Value) : Moves (openSubtask name) := by
  refine (moves_lift _).bind fun key => moves_get_bind fun machine => ?_
  split
  · exact moves_get_bind fun _ => moves_throw _
  · exact (moves_lift _).bind fun _ => (moves_note _ _).bind fun _ => (moves_indentBy 1).bind fun _ =>
      moves_pure _

theorem moves_openBranch (message : String) : Moves (openBranch message) :=
  (moves_note _ _).bind fun _ => moves_explainedIndentBy 1

theorem moves_closeBranch (result : Value) : Moves (closeBranch result) :=
  moves_ite ((moves_explainedIndentBy (-2)).bind fun _ => moves_pure _)
    ((moves_explainedIndentBy (-1)).bind fun _ => moves_pure _)

theorem moves_resolve (function : Value) : Moves (resolve function) := by
  refine (moves_lift _).bind fun key => moves_get_bind fun _ => moves_ite (moves_pure _) ?_
  split
  · exact moves_get_bind fun _ =>
      moves_ite (moves_pure _) (moves_get_bind fun _ => moves_throw _)
  · exact moves_throw _

theorem callSubtask_eq (call : Value → Run Value) (function : Value) :
    callSubtask call function = resolve function >>= call := by
  simp only [callSubtask, resolve, bind_assoc]
  congr 1
  funext key
  congr 1
  funext machine
  split
  · rw [pure_bind]
  · cases function with
    | str name =>
        simp only [bind_assoc]
        congr 1
        funext machine
        split
        · rw [pure_bind]
        · rfl
    | _ => rfl

/-- Enters a task, with its parts as the result. -/
def openTask (name : Value) : Run (List TaskItem) := do
  let key ← lift name.asKey
  match Table.fetch? key (← get).tasks with
  | none => fail (.unknownTask name (Table.keys (← get).tasks))
  | some items =>
    let shown ← lift name.say
    note "TASK" ("Executing " ++ shown)
    indentBy 1
    return items

theorem moves_openTask (name : Value) : Moves (openTask name) := by
  refine (moves_lift _).bind fun key => moves_get_bind fun machine => ?_
  split
  · exact moves_get_bind fun _ => moves_throw _
  · exact (moves_lift _).bind fun _ => (moves_note _ _).bind fun _ => (moves_indentBy 1).bind fun _ =>
      moves_pure _

/-- Checks a program and registers its tasks, with the names of those to run as the result. -/
def openProgram (tree : Value) : Run (List Value) := do
  passing (Check.program tree (← get).source).outcome
  announce tree
  registerTasks (← lift (tree.part "tasks"))
  lift (← lift (tree.part "runs")).elements

theorem takeBranch_eq (message : String) (body : Run Value) :
    takeBranch message body = (do
      openBranch message
      let result ← body
      closeBranch result) := by
  simp only [takeBranch, openBranch, closeBranch, bind_assoc]

theorem runSubtask_eq (depth : Nat) (name : Value) :
    runSubtask (depth + 1) name = (do
      let body ← openSubtask name
      let result ← execBody (runSubtask depth) body
      closeSubtask result) := by
  simp only [runSubtask, runSubtaskBody, openSubtask, closeSubtask, bind_assoc]
  congr 1
  funext key
  congr 1
  funext machine
  cases Table.fetch? key machine.subtasks with
  | none => rfl
  | some body => simp only [bind_assoc, pure_bind]

theorem runTask_eq (call : Value → Run Value) (name : Value) :
    runTask call name = (do
      let items ← openTask name
      runItems call items
      indentBy (-1)) := by
  simp only [runTask, openTask, bind_assoc]
  congr 1
  funext key
  congr 1
  funext machine
  cases Table.fetch? key machine.tasks with
  | none => rfl
  | some items => simp only [bind_assoc, pure_bind]

/-- Checks a syntax tree and runs its tasks, with calls nested up to some depth. -/
def executeCheckedNested (depth : Nat) (tree : Value) : Run Unit := do
  let names ← openProgram tree
  runTasks (runSubtask depth) names

/-- Executes a syntax tree with calls nested up to some depth. -/
def executeNested (depth : Nat) (tree : Value) : Run Unit :=
  tryCatch (executeCheckedNested depth tree) fun stop =>
    match stop with
    | .report report => throw (.report report)
    | .fault cause => do fail (.broken cause (← get).variables)

theorem executeNested_maxDepth (tree : Value) : executeNested maxDepth tree = execute tree := by
  simp only [executeNested, executeCheckedNested, execute, executeChecked, openProgram, bind_assoc]
  rfl

end Run

/-! ## The interpreter -/

namespace Clocked

variable {α : Type}

/-- How a computation ends on a machine, and the machine that it leaves, unless it runs out of fuel. -/
def outcome (run : Clocked α) (machine : Machine) : Option (Except Halt α × Machine) :=
  run.run.run machine

/-- No outcome. -/
def outOfFuel : Clocked α :=
  fun _ => none

/-- The outcome of a run, as one against a clock. -/
def ended : Except Stop α × Machine → Except Halt α × Machine
  | (.ok value, machine) => (.ok value, machine)
  | (.error stop, machine) => (.error (.stopped stop), machine)

/-- A computation in which nothing is evaluated, as a single step. -/
def lift (run : Run α) : Clocked α :=
  fun machine => some (ended (run.outcome machine))

mutual

/-- The value of a term. -/
def eval (room : Option Nat) : (fuel : Nat) → Term → Clocked Value
  | 0, _ => outOfFuel
  | _ + 1, .const value => pure value
  | _ + 1, .var name => lift (Run.readVariable name)
  | _ + 1, .fault cause => lift (Run.fault cause)
  | fuel + 1, .after first last => do
    let _ ← eval room fuel first
    eval room fuel last
  | fuel + 1, .list items => do return .list (← evalItems room fuel items)
  | fuel + 1, .dict entries => do return .dict (← evalEntries room fuel entries [])
  | fuel + 1, .index container key => do
    let container ← eval room fuel container
    let key ← eval room fuel key
    lift (Run.index container key)
  | fuel + 1, .negate operand => do
    let value ← eval room fuel operand
    lift (Run.lift value.negate)
  | fuel + 1, .binary operator left right => do
    let left ← eval room fuel left
    let right ← eval room fuel right
    lift (Run.operate operator left right)
  | fuel + 1, .call function arguments => do
    let values ← evalAll room fuel arguments
    callFunction room fuel function values

/-- The values of several terms. -/
def evalAll (room : Option Nat) : (fuel : Nat) → List Term → Clocked (List Value)
  | 0, _ => outOfFuel
  | _ + 1, [] => pure []
  | fuel + 1, term :: rest => do
    let value ← eval room fuel term
    let values ← evalAll room fuel rest
    return value :: values

/-- The items of a list. -/
def evalItems (room : Option Nat) : (fuel : Nat) → List Term → Clocked (List Value)
  | 0, _ => outOfFuel
  | _ + 1, [] => pure []
  | fuel + 1, term :: rest => do
    let value ← eval room fuel term
    let value ← lift (Run.lift value.unwrapped)
    let values ← evalItems room fuel rest
    return value :: values

/-- The entries of a dictionary. -/
def evalEntries (room : Option Nat) :
    (fuel : Nat) → List (Term × Term) → (stored : Table Value) → Clocked (Table Value)
  | 0, _, _ => outOfFuel
  | _ + 1, [], stored => pure stored
  | fuel + 1, (key, value) :: rest, stored => do
    let key ← eval room fuel key
    let value ← eval room fuel value
    let key ← lift (Run.lift key.unwrapped)
    let value ← lift (Run.lift value.unwrapped)
    let key ← lift (Run.lift key.asKey)
    evalEntries room fuel rest (Table.store key value stored)

/-- Calls a function. -/
def callFunction (room : Option Nat) : (fuel : Nat) → Value → List Value → Clocked Value
  | 0, _, _ => outOfFuel
  | fuel + 1, function, arguments =>
    match function with
    | .str name =>
      match Run.builtin? name with
      | some run => lift (run arguments)
      | none => do
        let key ← lift (Run.resolve function)
        runSubtask room fuel key
    | _ => do
      let key ← lift (Run.resolve function)
      runSubtask room fuel key

/-- Runs a subtask, if there is room for another active call. -/
def runSubtask (room : Option Nat) : (fuel : Nat) → (name : Value) → Clocked Value
  | 0, _ => outOfFuel
  | fuel + 1, name =>
    match room with
    | some 0 => throw .exceeded
    | room => do
      let body ← lift (Run.openSubtask name)
      let result ← execBody (room.map (· - 1)) fuel body
      lift (Run.closeSubtask result)

/-- The value of a test. -/
def evalTest (room : Option Nat) : (fuel : Nat) → Test → Clocked Value
  | 0, _ => outOfFuel
  | fuel + 1, .operation left right operator => do
    let left ← eval room fuel left
    let right ← eval room fuel right
    let operator ← lift (Run.lift operator)
    lift (Run.noteSaying "CHECK" do
      return "Checking if " ++ (← left.say) ++ " " ++ (← operator.say) ++ " " ++ (← right.say))
    let left ← eval room fuel (Term.ofNode left)
    let right ← eval room fuel (Term.ofNode right)
    let value ← lift (Run.operate operator left right)
    lift (Run.noteSaying "RESULT" do return "Condition evaluates to: " ++ (← value.say))
    return value
  | fuel + 1, .plain term node => do
    let value ← eval room fuel term
    lift (Run.noteSaying "CHECK" do return "Checking condition: " ++ (← node.say))
    lift (Run.noteSaying "RESULT" do return "Condition evaluates to: " ++ (← value.say))
    return value

/-- Executes an action. -/
def exec (room : Option Nat) : (fuel : Nat) → Action → Clocked Value
  | 0, _ => outOfFuel
  | _ + 1, .skip => pure .null
  | _ + 1, .fault cause => lift (Run.fault cause)
  | fuel + 1, .assign target value => do
    let value ← eval room fuel value
    lift (Run.assignTo target value)
  | fuel + 1, .call term => eval room fuel term
  | fuel + 1, .yield value => do return Run.returned (← eval room fuel value)
  | fuel + 1, .decide branches => do
    lift Run.openChoice
    execBranches room fuel branches
  | fuel + 1, .forEach item source body => do
    let loop ← lift (Run.startOver item source)
    runLoop room fuel loop body
  | fuel + 1, .forRange item bound body => do
    let bound ← eval room fuel bound
    let loop ← lift (Run.startBelow item bound)
    runLoop room fuel loop body
  | fuel + 1, .forEnumerated index element collection body => do
    let loop ← lift (Run.startNumbered index element collection)
    runLoop room fuel loop body

/-- Executes actions up to the first one that results in a return. -/
def execBody (room : Option Nat) : (fuel : Nat) → List Action → Clocked Value
  | 0, _ => outOfFuel
  | _ + 1, [] => pure .null
  | fuel + 1, action :: rest => do
    let result ← exec room fuel action
    if Run.endsBody result then return result else execBody room fuel rest

/-- Executes the first branch whose test holds. -/
def execBranches (room : Option Nat) : (fuel : Nat) → List Branch → Clocked Value
  | 0, _ => outOfFuel
  | _ + 1, [] => lift do
    Run.explainedIndentBy (-1)
    return .null
  | _ + 1, .fault cause :: _ => lift (Run.fault cause)
  | fuel + 1, .test isFirst test body :: rest => do
    let value ← evalTest room fuel test
    if value.isTrue then
      takeBranch room fuel ("Taking " ++ (if isFirst then "if" else "elif") ++ " branch") body
    else execBranches room fuel rest
  | fuel + 1, .otherwise body :: _ =>
    takeBranch room fuel "No conditions were true, taking else branch" body

/-- Takes a branch. -/
def takeBranch (room : Option Nat) : (fuel : Nat) → String → List Action → Clocked Value
  | 0, _, _ => outOfFuel
  | fuel + 1, message, body => do
    lift (Run.openBranch message)
    let result ← execBody room fuel body
    lift (Run.closeBranch result)

/-- Goes through the items of a loop. -/
def runLoop (room : Option Nat) : (fuel : Nat) → Loop → List Action → Clocked Value
  | 0, _, _ => outOfFuel
  | fuel + 1, loop, body => do
    let result ← iterate room fuel loop.prepare body loop.supply 0
    lift (Run.closeLoop result loop.closing)

/-- Draws items from a supply, until there are none or the body returns. -/
def iterate (room : Option Nat) :
    (fuel : Nat) → (Nat → Value → Run Unit) → List Action → Supply → (number : Nat) → Clocked Value
  | 0, _, _, _, _ => outOfFuel
  | fuel + 1, prepare, body, supply, number => do
    match ← lift (Run.draw? supply) with
    | none => return .null
    | some (item, rest) =>
      lift (prepare number item)
      let result ← execBody room fuel body
      if Run.endsBody result then return result
      else iterate room fuel prepare body rest (number + 1)

end

section Programs

variable (room : Option Nat) (fuel : Nat)

/-- Executes all the actions of a step. -/
def execAll : List Action → Clocked Unit
  | [] => pure ()
  | action :: rest => do
    let _ ← exec room fuel action
    execAll rest

/-- Runs a step. -/
def runStep (step : StepCode) : Clocked Unit := do
  let name ← lift (Run.lift step.name)
  let shown ← lift (Run.lift name.say)
  lift (Run.note "STEP" ("Executing " ++ shown))
  lift (Run.indentBy 1)
  execAll room fuel step.body
  lift (Run.indentBy (-1))

/-- Runs the parts of a task. -/
def runItems : List TaskItem → Clocked Unit
  | [] => pure ()
  | .fault cause :: _ => lift (Run.fault cause)
  | .step step :: rest => do
    runStep room fuel step
    runItems rest
  | .subtask name _ :: rest => do
    let name ← lift (Run.lift name)
    let _ ← runSubtask room fuel name
    runItems rest
  | .other :: rest => runItems rest

/-- Runs tasks one after the other. -/
def runTasks : List Value → Clocked Unit
  | [] => pure ()
  | name :: rest => do
    let items ← lift (Run.openTask name)
    runItems room fuel items
    lift (Run.indentBy (-1))
    runTasks rest

/-- Runs the tasks of a program. -/
def executeChecked (tree : Value) : Clocked Unit := do
  let names ← lift (Run.openProgram tree)
  runTasks room fuel names

/-- Executes a program. A fault becomes a report that shows the variables. -/
def execute (tree : Value) : Clocked Unit := fun machine =>
  ((executeChecked room fuel tree).outcome machine).map fun (result, after) =>
    match result with
    | .error (.stopped (.fault cause)) =>
      (.error (.stopped (Failure.broken cause after.variables).stop), after)
    | result => (result, after)

end Programs

end Clocked

end Stepwise
