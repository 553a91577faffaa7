import Stepwise.Machine.Exec
import Stepwise.Program.Reading

/-!
# Running texts and nodes

What a machine can be asked to do: execute a program text, or execute or evaluate a node of a syntax
tree that may come from anywhere.
-/

namespace Stepwise.Run

/-- Shows some lines as they are. -/
def emitLines : List String → Run Unit
  | [] => pure ()
  | text :: rest => do
    emit (.line text)
    emitLines rest

/-- Reads a program text. -/
def readProgram (source : Value) : Run Program := do
  let reading := Program.readValue source
  emitLines reading.printed
  match reading.outcome with
  | .ok program => return program
  | .error stop => throw stop

/-- Reads a program text and executes the program. -/
def executeSource (source : Value) : Run Unit := do
  let program ← readProgram source
  execute program.node

/-- Evaluates a node. -/
def evalNode (node : Value) : Run Value :=
  eval call (Term.ofNode node)

/-- Executes a node as a statement. -/
def execNode (node : Value) : Run Value :=
  exec call (Action.ofNode node)

/-- Runs a node as a step. -/
def stepNode (node : Value) : Run Unit :=
  runStep call (.ofNode node)

/-- Makes the call that a node describes. -/
def callNode (node : Value) : Run Value :=
  eval call (Term.callFrom node)

/-- Makes the choice that a node describes. -/
def decideNode (node : Value) : Run Value :=
  exec call (Action.decideFrom node)

/-- Runs the loop over items that a node describes. -/
def loopOverNode (node : Value) : Run Value :=
  exec call (Action.loopOverFrom node)

/-- Runs the loop over integers that a node describes. -/
def loopBelowNode (node : Value) : Run Value :=
  exec call (Action.loopBelowFrom node)

/-- Runs the loop over numbered items that a node describes, with its announcements. -/
def loopAnnouncedNode (node : Value) : Run Value := do
  let index ← lift (node.part "index")
  let element ← lift (node.part "element")
  let name ← lift (node.part "iterable")
  loopAnnounced index element name (execBody call (Action.bodyIn "body" node))

/-- Looks up the entry that a node describes. -/
def lookUpNode (node : Value) : Run Value := do
  let container ← eval call (Term.partOf "container" node)
  let key ← eval call (Term.partOf "key" node)
  lookUp container key

/-- Applies an operator to two values; an operation that is a dictionary brings its own operands. -/
def operateNode (operation left right : Value) : Run Value :=
  match operation with
  | .dict entries => eval call (Term.operationFrom entries)
  | _ => operate operation left right

end Stepwise.Run
