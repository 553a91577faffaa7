import Stepwise.Code.Term

/-!
# Actions

An action is the executable form of a statement's syntax tree. As with terms, every value can be read
as an action, and what a tree lacks becomes a fault in the place where execution misses it: a list of
actions that cannot be read is a list of one fault.
-/

namespace Stepwise

/-- The test of a branch. -/
inductive Test where
  /-- An operation, whose operands are evaluated on their own before they are compared. -/
  | operation (left right : Term) (operator : Except Fault Value)
  /-- Any other condition, with the node that it was read from. -/
  | plain (term : Term) (node : Value)

/-- What a loop over items runs through. -/
inductive LoopFeed where
  /-- The value of a variable. -/
  | direct (name : Value)
  /-- The value of a variable, each item with its number. `node` is what describes the source. -/
  | enumerated (name : Value) (element : Except Fault Value) (node : Value)

mutual

/-- The executable form of a statement. -/
inductive Action where
  | skip
  | fault (fault : Fault)
  | assign (target : Except Fault Value) (value : Term)
  | call (term : Term)
  | yield (value : Term)
  | decide (branches : List Branch)
  | forEach (item : Value) (source : LoopFeed) (body : List Action)
  | forRange (item : Value) (bound : Term) (body : List Action)
  | forEnumerated (index element : Except Fault Value) (collection : Value) (body : List Action)

/-- The executable form of a branch of a choice. -/
inductive Branch where
  | fault (fault : Fault)
  | test (isFirst : Bool) (test : Test) (body : List Action)
  | otherwise (body : List Action)

end

instance : Inhabited Action := ⟨.skip⟩

/-- The test that the condition of a branch is read as. -/
def Test.ofNode (node : Value) : Test :=
  match node with
  | .dict entries =>
    if nodeTag entries == "operation" then
      .operation (Term.entryAt "left" entries) (Term.entryAt "right" entries)
        (entryOf "operator" entries)
    else .plain (Term.ofNode node) node
  | _ => .plain (Term.ofNode node) node

/-- The test that an entry of a branch is read as. -/
def Test.ofEntry : Except Fault Value → Test
  | .ok node => .ofNode node
  | .error cause => .plain (.fault cause) .null

/-- What the source of a loop is read as; a dictionary has to have a tag. -/
def LoopFeed.ofNode (node : Value) : Except Fault LoopFeed :=
  match node with
  | .dict entries =>
    match entryOf "type" entries with
    | .error cause => .error cause
    | .ok tag =>
      if tag.same (.str "enumerate") then
        match entryOf "iterable" entries with
        | .error cause => .error cause
        | .ok name => .ok (.enumerated name (entryOf "value_var" entries) node)
      else .ok (.direct node)
  | _ => .ok (.direct node)

/-- What a loop needs to be known before it starts: two entries of its node. -/
def bothEntries (first second : String) (entries : List (Value × Value)) :
    Except Fault (Value × Value) := do
  return (← entryOf first entries, ← entryOf second entries)

namespace Action

/-- A loop over items. -/
def loopOver (entries : List (Value × Value)) (body : List Action) : Action :=
  match bothEntries "iterator" "iterable" entries with
  | .error cause => .fault cause
  | .ok (item, node) =>
    match LoopFeed.ofNode node with
    | .error cause => .fault cause
    | .ok source => .forEach item source body

/-- A loop over the integers below a bound. -/
def loopBelow (entries : List (Value × Value)) (body : List Action) : Action :=
  match bothEntries "iterator" "range" entries with
  | .error cause => .fault cause
  | .ok (item, bound) => .forRange item (Term.ofNode bound) body

/-- A loop over items with their numbers. -/
def loopNumbered (entries : List (Value × Value)) (body : List Action) : Action :=
  match entryOf "iterable" entries with
  | .error cause => .fault cause
  | .ok collection =>
    .forEnumerated (entryOf "index" entries) (entryOf "element" entries) collection body

/-- A branch of a choice, by the tag of its node. -/
def branchOf (entries : List (Value × Value)) (body : List Action) : Branch :=
  match entryOf "type" entries with
  | .error cause => .fault cause
  | .ok tag =>
    if tag.same (.str "if") then .test true (.ofEntry (entryOf "condition" entries)) body
    else if tag.same (.str "elif") then .test false (.ofEntry (entryOf "condition" entries)) body
    else .otherwise body

mutual

/-- The action that a value is read as. -/
def ofNode : Value → Action
  | .dict entries =>
    match nodeTag entries with
    | "assignment" => .assign (entryOf "variable" entries) (Term.entryAt "value" entries)
    | "enumerate_loop" => loopNumbered entries (bodyAt "body" entries)
    | "for_loop" => loopOver entries (bodyAt "body" entries)
    | "range_loop" => loopBelow entries (bodyAt "body" entries)
    | "function_call" => .call (Term.callFrom (.dict entries))
    | "return" => .yield (Term.entryAt "value" entries)
    | "decide" => .decide (branchesAt entries)
    | _ => .skip
  | value => .fault (.missingMember value.typeName "get")

/-- The actions in the entry of a node under a name. -/
def bodyAt (name : String) : List (Value × Value) → List Action
  | [] => [.fault (missingEntry name)]
  | (key, value) :: rest => if key.same (.str name) then bodyOf value else bodyAt name rest

/-- The actions that running through a value gives. -/
def bodyOf : Value → List Action
  | .list items => ofNodes items
  | .tuple items => ofNodes items
  | .dict entries => ofKeys entries
  | .str text => text.toList.map fun _ => .fault (.missingMember "str" "get")
  | .range start stop step =>
    List.replicate (Value.rangeLength start stop step) (.fault (.missingMember "int" "get"))
  | value => [.fault (.notIterable value.typeName)]

/-- The actions that several values are read as. -/
def ofNodes : List Value → List Action
  | [] => []
  | value :: rest => ofNode value :: ofNodes rest

/-- The actions that the keys of a dictionary are read as. -/
def ofKeys : List (Value × Value) → List Action
  | [] => []
  | (key, _) :: rest => ofNode key :: ofKeys rest

/-- The branches in a choice's node. -/
def branchesAt : List (Value × Value) → List Branch
  | [] => [.fault (missingEntry "conditions")]
  | (key, value) :: rest => if key.same (.str "conditions") then branchesOf value else branchesAt rest

/-- The branches that running through a value gives. -/
def branchesOf : Value → List Branch
  | .list items => branches items
  | .tuple items => branches items
  | .dict entries => entries.map fun entry => .fault (entryFault "type" entry.1)
  | .str text => text.toList.map fun _ => .fault (entryFault "type" (.str ""))
  | .range start stop step =>
    List.replicate (Value.rangeLength start stop step) (.fault (entryFault "type" (.int 0)))
  | value => [.fault (.notIterable value.typeName)]

/-- The branches that several values are read as. -/
def branches : List Value → List Branch
  | [] => []
  | value :: rest => branchOfNode value :: branches rest

/-- The branch that a value is read as. -/
def branchOfNode : Value → Branch
  | .dict entries => branchOf entries (bodyAt "body" entries)
  | value => .fault (entryFault "type" value)

end

/-- The actions in the entry of any value under a name. -/
def bodyIn (name : String) : Value → List Action
  | .dict entries => bodyAt name entries
  | value => [.fault (entryFault name value)]

/-- The choice that any value describes. -/
def decideFrom : Value → Action
  | .dict entries => .decide (branchesAt entries)
  | value => .decide [.fault (entryFault "conditions" value)]

/-- The loop over items that any value describes. -/
def loopOverFrom : Value → Action
  | .dict entries => loopOver entries (bodyAt "body" entries)
  | value => .fault (entryFault "iterator" value)

/-- The loop over integers that any value describes. -/
def loopBelowFrom : Value → Action
  | .dict entries => loopBelow entries (bodyAt "body" entries)
  | value => .fault (entryFault "iterator" value)

end Action

/-- A step: its name and what it does. -/
structure StepCode where
  name : Except Fault Value
  body : List Action

/-- The step that any value describes. -/
def StepCode.ofNode (node : Value) : StepCode :=
  ⟨node.part "name", Action.bodyIn "statements" node⟩

/-- The executable form of a part of a task. -/
inductive TaskItem where
  | fault (fault : Fault)
  | step (step : StepCode)
  /-- A subtask, with what it does, to be run under its name. -/
  | subtask (name : Except Fault Value) (body : List Action)
  | other

/-- The part of a task that a value is read as. -/
def TaskItem.ofNode (node : Value) : TaskItem :=
  match node with
  | .dict entries =>
    match nodeTag entries with
    | "step" => .step (.ofNode node)
    | "subtask" => .subtask (entryOf "name" entries) (Action.bodyAt "statements" entries)
    | _ => .other
  | _ => .fault (.missingMember node.typeName "get")

/-- The parts of the task that a value describes. -/
def TaskItem.itemsOf (task : Value) : List TaskItem :=
  match task.part "body" with
  | .error cause => [.fault cause]
  | .ok body =>
    match body.elements with
    | .error cause => [.fault cause]
    | .ok values => values.map TaskItem.ofNode

end Stepwise
