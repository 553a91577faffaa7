import Stepwise.Machine.Function

/-!
# Evaluation of terms

Evaluation follows the structure of a term. What a call of a subtask does is left open: it is the
parameter `call`, and `Stepwise.Machine.Exec` closes the circle.
-/

namespace Stepwise.Run

/-- The value of a variable that has to be there. -/
def readVariable (name : String) : Run Value := do
  let machine ← get
  match Table.fetch? (.str name) machine.variables with
  | some value => return value
  | none => fail (.undefinedVariable (.str name) (Table.keys machine.variables))

mutual

/-- The value of a term. -/
def eval (call : Value → Run Value) : Term → Run Value
  | .const value => pure value
  | .var name => readVariable name
  | .fault cause => fault cause
  | .after first last => do
    let _ ← eval call first
    eval call last
  | .list items => do return .list (← evalItems call items)
  | .dict entries => do return .dict (← evalEntries call entries [])
  | .index container key => do
    let container ← eval call container
    let key ← eval call key
    index container key
  | .negate operand => do lift (← eval call operand).negate
  | .binary operator left right => do
    let left ← eval call left
    let right ← eval call right
    operate operator left right
  | .call function arguments => do callFunction call function (← evalAll call arguments)

/-- The values of several terms. -/
def evalAll (call : Value → Run Value) : List Term → Run (List Value)
  | [] => pure []
  | term :: rest => do
    let value ← eval call term
    return value :: (← evalAll call rest)

/-- The items of a list; one that stands for a quoted text is the text itself. -/
def evalItems (call : Value → Run Value) : List Term → Run (List Value)
  | [] => pure []
  | term :: rest => do
    let value ← lift (← eval call term).unwrapped
    return value :: (← evalItems call rest)

/-- The entries of a dictionary, stored one after the other. Keys and values that stand for a quoted
text are the text itself. -/
def evalEntries (call : Value → Run Value) :
    List (Term × Term) → (stored : Table Value) → Run (Table Value)
  | [], stored => pure stored
  | (key, value) :: rest, stored => do
    let key ← eval call key
    let value ← eval call value
    let key ← lift key.unwrapped
    let value ← lift value.unwrapped
    let key ← lift key.asKey
    evalEntries call rest (Table.store key value stored)

end

end Stepwise.Run
