import Stepwise.Proofs.Faults.Entries
import Stepwise.Proofs.Termination.Clock

/-!
# Traced runs

A third semantics of the code, which keeps track of what is being read.  If an entry is missing, the
trouble names the entry and the reader: the code of the program, the condition of a branch, the source of
a loop, or a value that came up during the run.

A run passes over an action or a part of a task that it does not know.  A traced run stops there.
-/

namespace Stepwise

/-- What reads entries. -/
inductive Reader where
  /-- The code of the program, apart from conditions and sources. -/
  | code
  /-- The condition of a branch. -/
  | condition (test : Test)
  /-- The source of a loop over items. -/
  | source (feed : LoopFeed)
  /-- A value of the run that is read in a place. -/
  | value (place : Place) (value : Value)

/-- Why a traced run ends without a value. -/
inductive Trouble where
  | stopped (stop : Stop)
  /-- A reader finds no entry of a name. -/
  | missing (name : String) (reader : Reader)
  /-- There is no such action, or no such part of a task. -/
  | unknown

/-- A computation on a machine that keeps track of what is read. -/
abbrev Traced (α : Type) := ExceptT Trouble (StateM Machine) α

/-- The trouble that a stop amounts to while something is being read. -/
def Trouble.ofStop (reader : Reader) : Stop → Trouble
  | .fault (.missingKey (.str name)) => .missing name reader
  | stop => .stopped stop

namespace Traced

open Run (lift fault note indentBy explainedIndentBy)

variable {α : Type}

/-- How a computation ends on a machine, and the machine that it leaves. -/
def outcome (traced : Traced α) (machine : Machine) : Except Trouble α × Machine :=
  (ExceptT.run traced).run machine

/-- A computation in which only one thing is read. -/
def step (reader : Reader) (run : Run α) : Traced α :=
  ExceptT.mk fun machine =>
    let (result, after) := run.outcome machine
    (result.mapError (.ofStop reader), after)

/-! ## Terms -/

/-- The output of some values. -/
def printValues (values : List Value) : Traced Value := do
  let texts ← values.mapM fun value => step (.value .text value) (Run.outputText value)
  step .code do
    let joined ← lift (Run.joinTexts 0 texts)
    Run.output (" ".intercalate joined)
    return .null

/-- Calls a function: `call` runs a subtask. -/
def callFunction (call : Value → Traced Value) (function : Value) (arguments : List Value) :
    Traced Value :=
  match function with
  | .str "print" => printValues arguments
  | .str name =>
    match Run.builtin? name with
    | some run => step .code (run arguments)
    | none => do call (← step .code (Run.resolve function))
  | _ => do call (← step .code (Run.resolve function))

/-- The value itself, or what a dictionary that stands for a quoted text holds. -/
def unwrapped (value : Value) : Traced Value :=
  step (.value .text value) (lift value.unwrapped)

mutual

/-- The value of a term that a reader comes upon. -/
def eval (call : Value → Traced Value) (reader : Reader) : Term → Traced Value
  | .const value => pure value
  | .var name => step reader (Run.readVariable name)
  | .fault cause => step reader (fault cause)
  | .after first last => do
    let _ ← eval call reader first
    eval call reader last
  | .list items => do return .list (← evalItems call reader items)
  | .dict entries => do return .dict (← evalEntries call reader entries [])
  | .index container key => do
    let container ← eval call reader container
    let key ← eval call reader key
    step reader (Run.index container key)
  | .negate operand => do step reader (lift (← eval call reader operand).negate)
  | .binary operator left right => do
    let left ← eval call reader left
    let right ← eval call reader right
    step reader (Run.operate operator left right)
  | .call function arguments => do
    callFunction call function (← evalAll call reader arguments)

/-- The values of several terms. -/
def evalAll (call : Value → Traced Value) (reader : Reader) : List Term → Traced (List Value)
  | [] => pure []
  | term :: rest => do
    let value ← eval call reader term
    return value :: (← evalAll call reader rest)

/-- The items of a list. -/
def evalItems (call : Value → Traced Value) (reader : Reader) : List Term → Traced (List Value)
  | [] => pure []
  | term :: rest => do
    let value ← unwrapped (← eval call reader term)
    return value :: (← evalItems call reader rest)

/-- The entries of a dictionary. -/
def evalEntries (call : Value → Traced Value) (reader : Reader) :
    List (Term × Term) → (stored : Table Value) → Traced (Table Value)
  | [], stored => pure stored
  | (key, value) :: rest, stored => do
    let key ← eval call reader key
    let value ← eval call reader value
    let key ← unwrapped key
    let value ← unwrapped value
    let key ← step reader (lift key.asKey)
    evalEntries call reader rest (Table.store key value stored)

end

/-- The value of a test.  The values of the operands are read as code. -/
def evalTest (call : Value → Traced Value) (test : Test) : Traced Value :=
  match test with
  | .operation left right operator => do
    let left ← eval call (.condition test) left
    let right ← eval call (.condition test) right
    let operator ← step (.condition test) (lift operator)
    step .code <| Run.noteSaying "CHECK" do
      return "Checking if " ++ (← left.say) ++ " " ++ (← operator.say) ++ " " ++ (← right.say)
    let left ← eval call (.value .term left) (Term.ofNode left)
    let right ← eval call (.value .term right) (Term.ofNode right)
    let value ← step .code (Run.operate operator left right)
    step .code <| Run.noteSaying "RESULT" do
      return "Condition evaluates to: " ++ (← value.say)
    return value
  | .plain term node => do
    let value ← eval call (.condition test) term
    step .code <| Run.noteSaying "CHECK" do return "Checking condition: " ++ (← node.say)
    step .code <| Run.noteSaying "RESULT" do
      return "Condition evaluates to: " ++ (← value.say)
    return value

/-! ## Actions -/

/-- Stores the value of an assignment and notes it. -/
def assignTo (target : Except Fault Value) (value : Value) : Traced Value := do
  let value ← unwrapped value
  step .code do
    let target ← lift target
    Run.assign target value
    let shown ← lift (Run.noteText value)
    let name ← lift target.say
    note "VARIABLE" ("Assigned " ++ shown ++ " to " ++ name)
    return .null

section Loops

variable (body : Nat → Value → Traced Value)

/-- Runs a body for each item of a list, until one results in a return. -/
def forItems : (items : List Value) → (number : Nat) → Traced Value
  | [], _ => pure .null
  | item :: items, number => do
    let result ← body number item
    if Run.endsBody result then return result else forItems items (number + 1)

/-- Runs a body for each integer of a range, until one results in a return. -/
def forSpan (gap : Int) : (count : Nat) → (start : Int) → (number : Nat) → Traced Value
  | 0, _, _ => pure .null
  | count + 1, start, number => do
    let result ← body number (.int start)
    if Run.endsBody result then return result
    else forSpan gap count (start + gap) (number + 1)

/-- Runs a body for each of the next items of an enumeration, until one results in a return. -/
def forCursor (cursor : Nat) : (count : Nat) → (number : Nat) → Traced Value
  | 0, _ => pure .null
  | count + 1, number => do
    match ← step .code (Run.takeCursor? cursor) with
    | none => return .null
    | some item =>
      let result ← body number item
      if Run.endsBody result then return result else forCursor cursor count (number + 1)

/-- Runs a body for each item of a supply, until one results in a return. -/
def forSupply (supply : Supply) : Traced Value :=
  match supply with
  | .feed (.items items) => forItems body items 0
  | .feed (.span start gap count) => forSpan body gap count start 0
  | .cursor number => do
    let machine ← step .code get
    forCursor body number (Cursor.remaining machine.cursors (number + 1) number) 0

end Loops

/-- Goes through the items of a loop. -/
def runLoop (loop : Loop) (body : Traced Value) : Traced Value := do
  let supplied ← forSupply (fun number item => do
    step .code (loop.prepare number item)
    body) loop.supply
  step .code (Run.closeLoop supplied loop.closing)

/-- Takes a branch. -/
def takeBranch (message : String) (body : Traced Value) : Traced Value := do
  step .code (Run.openBranch message)
  let result ← body
  step .code (Run.closeBranch result)

mutual

/-- Executes an action. -/
def exec (call : Value → Traced Value) : Action → Traced Value
  | .skip => throw .unknown
  | .fault cause => step .code (fault cause)
  | .assign target value => do assignTo target (← eval call .code value)
  | .call term => eval call .code term
  | .yield value => do return Run.returned (← eval call .code value)
  | .decide branches => do
    step .code Run.openChoice
    execBranches call branches
  | .forEach item source body => do
    let loop ← step (.source source) (Run.startOver item source)
    runLoop loop (execBody call body)
  | .forRange item bound body => do
    let bound ← eval call .code bound
    let loop ← step .code (Run.startBelow item bound)
    runLoop loop (execBody call body)
  | .forEnumerated index element collection body => do
    let loop ← step .code (Run.startNumbered index element collection)
    runLoop loop (execBody call body)

/-- Executes actions up to the first one that results in a return. -/
def execBody (call : Value → Traced Value) : List Action → Traced Value
  | [] => pure .null
  | action :: rest => do
    let result ← exec call action
    if Run.endsBody result then return result else execBody call rest

/-- Executes the first branch whose test holds. -/
def execBranches (call : Value → Traced Value) : List Branch → Traced Value
  | [] => step .code do
    explainedIndentBy (-1)
    return .null
  | .fault cause :: _ => step .code (fault cause)
  | .test isFirst test body :: rest => do
    let value ← evalTest call test
    if value.isTrue then
      takeBranch ("Taking " ++ (if isFirst then "if" else "elif") ++ " branch") (execBody call body)
    else execBranches call rest
  | .otherwise body :: _ =>
    takeBranch "No conditions were true, taking else branch" (execBody call body)

end

/-! ## Tasks -/

/-- Executes all the actions of a step. -/
def execAll (call : Value → Traced Value) : List Action → Traced Unit
  | [] => pure ()
  | action :: rest => do
    let _ ← exec call action
    execAll call rest

/-- Runs a subtask.  The number bounds how deeply calls may be nested in it. -/
def runSubtask : (depth : Nat) → (name : Value) → Traced Value
  | 0, _ => step .code (fault .callsTooDeep)
  | depth + 1, name => do
    let body ← step .code (Run.openSubtask name)
    let result ← execBody (runSubtask depth) body
    step (.value .result result) (Run.closeSubtask result)

/-- Runs a step. -/
def runStep (call : Value → Traced Value) (code : StepCode) : Traced Unit := do
  let name ← step .code (lift code.name)
  let shown ← step .code (lift name.say)
  step .code (note "STEP" ("Executing " ++ shown))
  step .code (indentBy 1)
  execAll call code.body
  step .code (indentBy (-1))

/-- Runs the parts of a task. -/
def runItems (call : Value → Traced Value) : List TaskItem → Traced Unit
  | [] => pure ()
  | .fault cause :: _ => step .code (fault cause)
  | .step code :: rest => do
    runStep call code
    runItems call rest
  | .subtask name _ :: rest => do
    let name ← step .code (lift name)
    let _ ← call name
    runItems call rest
  | .other :: _ => throw .unknown

/-- Runs tasks one after the other. -/
def runTasks (call : Value → Traced Value) : List Value → Traced Unit
  | [] => pure ()
  | name :: rest => do
    let items ← step .code (Run.openTask name)
    runItems call items
    step .code (indentBy (-1))
    runTasks call rest

/-- Checks a program and runs its tasks. -/
def executeChecked (tree : Value) : Traced Unit := do
  let names ← step .code (Run.openProgram tree)
  runTasks (runSubtask Run.maxDepth) names

/-! ## Outcomes -/

theorem outcome_step (reader : Reader) (run : Run α) (machine : Machine) :
    (step reader run).outcome machine =
      ((run.outcome machine).1.mapError (.ofStop reader), (run.outcome machine).2) := rfl

theorem outcome_bind {β : Type} (traced : Traced α) (next : α → Traced β) (machine : Machine) :
    (traced >>= next).outcome machine =
      match traced.outcome machine with
      | (.ok value, after) => (next value).outcome after
      | (.error trouble, after) => (.error trouble, after) := by
  have opened : (traced >>= next).outcome machine =
      ExceptT.bindCont next (traced.outcome machine).1 (traced.outcome machine).2 := rfl
  rw [opened]
  cases traced.outcome machine with
  | mk result after => cases result <;> rfl

end Traced

end Stepwise
