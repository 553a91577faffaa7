import Stepwise.Value.Arithmetic

/-!
# Rules of the grammar

The grammar of programs, rule by rule. A rule covers some alternatives for one phrase and says how the
node of a phrase is built from the values of its parts. The rules are more liberal than programs need:
some phrases cannot occur in a program, and `Rule.build` answers for any parts, also for those that no
alternative has.
-/

namespace Stepwise.Grammar

/-- The rules of the grammar. -/
inductive Rule where
  | program
  | objective
  | taskList
  | task
  | itemList
  | step
  | subtask
  | statement
  | simpleStatement
  | compoundStatement
  | statementList
  | returnStatement
  | empty
  | decideStatement
  | conditionList
  | elifList
  | ifCondition
  | elifCondition
  | elseCondition
  | forStatement
  | loopBody
  | iterable
  | indexing
  | assignment
  | expression
  | primary
  | literal
  | number
  | arrayAccess
  | arithmetic
  | comparison
  | term
  | factor
  | numericLiteral
  | dictLiteral
  | dictEntries
  | dictEntry
  | indexExpression
  | list
  | listItems
  | functionCall
  | argumentList
  | runList
  | runStatement
  deriving DecidableEq, Repr

/-- One part of a phrase: the name of its kind and its value. -/
structure Part where
  kind : String
  value : Value

/-- The value of the part with this number, counted from one. -/
def partValue (parts : List Part) (number : Nat) : Except Fault Value :=
  match (parts.drop (number - 1)).head? with
  | some part => .ok part.value
  | none => .error .outsideList

/-- A list with an item in front of it; anything but a list cannot be extended. -/
def prepend (item rest : Value) : Except Fault Value :=
  match rest with
  | .list items => .ok (.list (item :: items))
  | rest => .error (.cannotConcatenate "list" rest.typeName)

/-- A list built from its first item alone, or from its first item and the list at part `next`. -/
def buildList (parts : List Part) (next : Nat) : Except Fault Value := do
  let item ← partValue parts 1
  if parts.length = 1 then return .list [item]
  prepend item (← partValue parts next)

/-- The name that a phrase gives by a quoted text at its second part. -/
def buildName (parts : List Part) : Except Fault Value := do
  (← partValue parts 2).unwrapped

/-- The node of an operation on the first part and the third. -/
def buildOperation (parts : List Part) : Except Fault Value := do
  let left ← partValue parts 1
  let operator ← partValue parts 2
  let right ← partValue parts 3
  return .record [("type", .str "operation"), ("left", left), ("operator", operator),
    ("right", right)]

/-- The node that looks up the third part in the first. -/
def buildIndex (parts : List Part) : Except Fault Value := do
  let container ← partValue parts 1
  let key ← partValue parts 3
  return .record [("type", .str "index"), ("container", container), ("key", key)]

/-- The node of a step or subtask. -/
def buildItem (tag : String) (parts : List Part) : Except Fault Value := do
  let name ← buildName parts
  let body ← partValue parts 4
  return .record [("type", .str tag), ("name", name), ("statements", body)]

/-- The node of a branch with a condition. -/
def buildBranch (tag : String) (parts : List Part) : Except Fault Value := do
  let condition ← partValue parts 2
  let body ← partValue parts 5
  return .record [("type", .str tag), ("condition", condition), ("body", body)]

/-- The list of statements. A second part that is no list counts as one more statement. -/
def buildStatements (parts : List Part) : Except Fault Value := do
  let first ← partValue parts 1
  if parts.length = 1 then
    match first with
    | .null => return .list []
    | first => return .list [first]
  match ← partValue parts 2 with
  | .list others => return .list (first :: others)
  | second => return .list [first, second]

/-- The list of branches. -/
def buildConditions (parts : List Part) : Except Fault Value := do
  let first ← partValue parts 1
  if parts.length = 2 then
    match ← partValue parts 2 with
    | .list others => return .list (first :: others)
    | last => return .list [first, last]
  else if parts.length = 3 then
    let others ← (← partValue parts 2).elements
    let last ← partValue parts 3
    return .list (first :: others ++ [last])
  else return .list [first]

/-- The node of the last branch, which keeps its statements only if a fourth part follows them. -/
def buildElse (parts : List Part) : Except Fault Value := do
  let body ←
    if parts.length = 4 then do
      match ← partValue parts 3 with
      | .list statements => pure (Value.list statements)
      | statement => pure (Value.list [statement])
    else pure (Value.list [])
  return .record [("type", .str "else"), ("body", body)]

/-- The node of a loop, whose kind is told by the number of parts. -/
def buildLoop (parts : List Part) : Except Fault Value := do
  let loopName ← partValue parts 2
  if parts.length = 12 then
    let element ← partValue parts 4
    let source ← partValue parts 8
    let body ← partValue parts 11
    return .record [("type", .str "enumerate_loop"), ("index", loopName), ("element", element),
      ("iterable", source), ("body", body)]
  else if parts.length = 10 then
    let bound ← partValue parts 6
    let body ← partValue parts 9
    return .record [("type", .str "range_loop"), ("iterator", loopName), ("range", bound),
      ("body", body)]
  else
    let source ← partValue parts 4
    let body ← partValue parts 6
    return .record [("type", .str "for_loop"), ("iterator", loopName), ("iterable", source),
      ("body", body)]

/-- What a loop runs through. -/
def buildIterable (parts : List Part) : Except Fault Value := do
  if parts.length = 1 then partValue parts 1
  else if parts.length = 4 then
    let word ← partValue parts 1
    let content ← partValue parts 3
    if word.same (.str "range") then return .record [("type", .str "range"), ("end", content)]
    else return .record [("type", .str "enumerate"), ("iterable", content)]
  else return .null

/-- The first part alone, or else what stands between the first part and the third. -/
def buildEnclosed (parts : List Part) : Except Fault Value :=
  if parts.length = 1 then partValue parts 1 else partValue parts 2

/-- A simple operand. A quoted text is wrapped once more; after a sign the operand is negated. -/
def buildPrimary (parts : List Part) : Except Fault Value := do
  match parts with
  | [part] => return if part.kind == "STRING" then .textLiteral part.value else part.value
  | [_, part] => part.value.negate
  | parts => partValue parts 2

/-- A sum, or its only summand. -/
def buildSum (parts : List Part) : Except Fault Value := do
  if parts.length = 1 then partValue parts 1
  else if parts.length = 3 then
    if (← partValue parts 1).same (.str "(") then partValue parts 2 else buildOperation parts
  else return .null

/-- The node of a phrase with these parts under a rule. -/
def Rule.build (rule : Rule) (parts : List Part) : Except Fault Value :=
  match rule with
  | .program => do
    let objective ← partValue parts 1
    let tasks ← partValue parts 2
    let runs ← partValue parts 3
    return .record [("objective", objective), ("tasks", tasks), ("runs", runs)]
  | .objective | .runStatement => buildName parts
  | .taskList | .itemList | .elifList | .loopBody | .runList => buildList parts 2
  | .dictEntries | .listItems | .argumentList => buildList parts 3
  | .task => do
    let name ← buildName parts
    let body ← partValue parts 4
    return .record [("name", name), ("body", body)]
  | .step => buildItem "step" parts
  | .subtask => buildItem "subtask" parts
  | .statement | .simpleStatement | .compoundStatement | .literal | .number => partValue parts 1
  | .statementList => buildStatements parts
  | .returnStatement => do
    return .record [("type", .str Value.returnTag), ("value", ← partValue parts 2)]
  | .empty => .ok .null
  | .decideStatement => do
    return .record [("type", .str "decide"), ("conditions", ← partValue parts 3)]
  | .conditionList => buildConditions parts
  | .ifCondition => buildBranch "if" parts
  | .elifCondition => buildBranch "elif" parts
  | .elseCondition => buildElse parts
  | .forStatement => buildLoop parts
  | .iterable => buildIterable parts
  | .indexing | .arrayAccess | .indexExpression => buildIndex parts
  | .assignment => do
    let name ← partValue parts 1
    let value ← partValue parts 3
    return .record [("type", .str "assignment"), ("variable", name), ("value", value)]
  | .expression => buildEnclosed parts
  | .primary => buildPrimary parts
  | .arithmetic => buildSum parts
  | .comparison => buildOperation parts
  | .term => if parts.length = 1 then partValue parts 1 else buildOperation parts
  | .factor => do
    if parts.length = 1 then partValue parts 1
    else return .record [("type", .str "operation"), ("operator", .str "uminus"),
      ("operand", ← partValue parts 2)]
  | .numericLiteral => do
    if parts.length = 1 then partValue parts 1 else (← partValue parts 2).negate
  | .dictLiteral => do
    let entries ← if parts.length = 2 then pure (Value.list []) else partValue parts 2
    return .record [("type", .str "dict"), ("entries", entries)]
  | .dictEntry => do
    let key ← partValue parts 1
    let value ← partValue parts 3
    return .record [("key", key), ("value", value)]
  | .list => do
    let items ← if parts.length = 3 then partValue parts 2 else pure (Value.list [])
    return .record [("type", .str "list"), ("items", items)]
  | .functionCall => do
    let name ← partValue parts 1
    let arguments ← if parts.length = 3 then pure (Value.list []) else partValue parts 3
    return .record [("type", .str "function_call"), ("name", name), ("arguments", arguments)]

end Stepwise.Grammar
