import Stepwise.Code.Action
import Stepwise.Machine.Style
import Stepwise.Report

/-!
# Machines

A machine executes programs. It holds the variables in the order of their first assignment, the tasks
and subtasks that were registered, the depth of indentation, the number of iterations that loops have
counted, the running enumerations, and a log of what it has shown.

A computation on a machine gives a result or stops, and keeps the machine as it is then in both cases.
-/

namespace Stepwise

/-- How a machine presents what it does. -/
structure Settings where
  /-- Whether it notes what it is doing. -/
  explain : Bool
  style : Style
  /-- How many iterations of a loop are noted one by one. -/
  shownIterations : Int

/-- What a machine shows. -/
inductive Event where
  | opening (indent : Int) (objective : String)
  | note (indent : Int) (category message : String)
  | output (indent : Int) (text : String)
  /-- A line that no style changes. -/
  | line (text : String)
  deriving DecidableEq, Repr

/-- An event as text in a style, with the newline that ends it. -/
def Event.render (style : Style) : Event → String
  | .opening indent objective => style.opening indent objective ++ "\n"
  | .note indent category message => style.note indent category message ++ "\n"
  | .output indent text => style.output indent text ++ "\n"
  | .line text => text ++ "\n"

/-- What an enumeration runs through. -/
inductive CursorSource where
  | feed (feed : Feed)
  | cursor (number : Nat)

/-- How far an enumeration has run: what is left, and the number of the next item. -/
structure Cursor where
  source : CursorSource
  next : Int

/-- A machine. -/
structure Machine where
  settings : Settings
  /-- The text that checks quote. -/
  source : Option String
  «variables» : Table Value
  tasks : Table (List TaskItem)
  subtasks : Table (List Action)
  indent : Int
  iterations : Nat
  cursors : List Cursor
  /-- What was shown, the last first. -/
  log : List Event

namespace Machine

/-- A new machine. -/
def fresh (settings : Settings) (source : Option String) : Machine where
  settings
  source
  «variables» := []
  tasks := []
  subtasks := []
  indent := 0
  iterations := 0
  cursors := []
  log := []

/-- The machine with an empty log. -/
def silenced (machine : Machine) : Machine :=
  { machine with log := [] }

/-- All that a machine has shown, in its style. -/
def printed (machine : Machine) : String :=
  String.join (machine.log.reverse.map (Event.render machine.settings.style))

end Machine

/-- A computation on a machine. -/
abbrev Run (α : Type) := ExceptT Stop (StateM Machine) α

namespace Run

/-- Stops with a fault. -/
def fault {α : Type} (cause : Fault) : Run α :=
  throw (.fault cause)

/-- Stops with a report. -/
def report {α : Type} (report : Report) : Run α :=
  throw report.stop

/-- The result of an operation on values. -/
def lift {α : Type} : Except Fault α → Run α
  | .ok value => pure value
  | .error cause => fault cause

/-- Shows something. -/
def emit (event : Event) : Run Unit :=
  modify fun machine => { machine with log := event :: machine.log }

/-- Whether the machine explains itself. -/
def explains : Run Bool := do
  return (← get).settings.explain

/-- Does something only if the machine explains itself. -/
def whenExplaining (action : Run Unit) : Run Unit := do
  if ← explains then action

/-- Notes something if the machine explains itself. -/
def note (category message : String) : Run Unit :=
  whenExplaining do emit (.note (← get).indent category message)

/-- Shows a line of output. -/
def output (text : String) : Run Unit := do
  emit (.output (← get).indent text)

/-- Changes the depth of indentation. -/
def indentBy (amount : Int) : Run Unit :=
  modify fun machine => { machine with indent := machine.indent + amount }

/-- Changes the depth of indentation if the machine explains itself. -/
def explainedIndentBy (amount : Int) : Run Unit :=
  whenExplaining (indentBy amount)

/-- The value of a variable, if there is one. A name that cannot be a key is a fault. -/
def valueNamed? (name : Value) : Run (Option Value) := do
  let key ← lift name.asKey
  return Table.fetch? key (← get).variables

/-- Gives a variable a value. -/
def assign (name value : Value) : Run Unit := do
  let key ← lift name.asKey
  modify fun machine => { machine with «variables» := Table.store key value machine.variables }

end Run

end Stepwise
