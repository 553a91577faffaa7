import Stepwise.Value.Access

/-!
# Programs

The abstract syntax of a program, and the syntax tree that stands for it. A program has an objective,
tasks made of steps and subtasks, and a list of the tasks to run. Syntax trees are values, so that a
machine can execute a tree that was parsed and one that was put together by hand alike.

An alternative `else` has no body here: what a program text holds after it is checked and left out.
-/

namespace Stepwise

/-- The operators between two operands. -/
inductive Operator where
  | plus
  | minus
  | times
  | divide
  | greater
  | less
  | equal
  | greaterEqual
  | lessEqual
  | notEqual
  deriving DecidableEq, Repr

/-- How an operator is written. -/
def Operator.symbol : Operator → String
  | .plus => "+"
  | .minus => "-"
  | .times => "*"
  | .divide => "/"
  | .greater => ">"
  | .less => "<"
  | .equal => "=="
  | .greaterEqual => ">="
  | .lessEqual => "<="
  | .notEqual => "!="

/-- The name of the unary minus in a syntax tree. -/
def minusName : String := "uminus"

/-- An expression. -/
inductive Expr where
  /-- A variable; the words for the truth values are variables too. -/
  | name (word : String)
  | int (n : Int)
  | float (x : Float)
  | text (content : String)
  | list (items : List Expr)
  | dict (entries : List (Expr × Expr))
  | call (function : String) (arguments : List Expr)
  | index (container key : Expr)
  | negate (operand : Expr)
  | binary (operator : Operator) (left right : Expr)
  deriving Inhabited

/-- What a loop over items runs through. -/
inductive LoopSource where
  | name (word : String)
  | enumerated (word : String)
  deriving DecidableEq, Repr

/-- A statement. -/
inductive Stmt where
  | assign (target : String) (value : Expr)
  | call (function : String) (arguments : List Expr)
  | yield (value : Expr)
  /-- A choice: the first test and its body, further tests with theirs, and whether an `else`
  follows. -/
  | decide (test : Expr) (body : List Stmt) (others : List (Expr × List Stmt)) (hasElse : Bool)
  | forEach (item : String) (source : LoopSource) (body : List Stmt)
  | forRange (item : String) (bound : Expr) (body : List Stmt)
  | forEnumerated (index element collection : String) (body : List Stmt)
  deriving Inhabited

/-- A part of a task. -/
inductive Item where
  | step (name : String) (body : List Stmt)
  | subtask (name : String) (body : List Stmt)
  deriving Inhabited

/-- A task. -/
structure Task where
  name : String
  items : List Item
  deriving Inhabited

/-- A program. -/
structure Program where
  objective : String
  tasks : List Task
  runs : List String
  deriving Inhabited

namespace Expr

mutual

/-- The syntax tree of an expression. A quoted text is wrapped twice. -/
def node : Expr → Value
  | .name word => .str word
  | .int n => .int n
  | .float x => .float x
  | .text content => .textLiteral (.textLiteral (.str content))
  | .list items => .record [("type", .str "list"), ("items", .list (itemNodes items))]
  | .dict entries => .record [("type", .str "dict"), ("entries", .list (entryNodes entries))]
  | .call function arguments =>
    .record [("type", .str "function_call"), ("name", .str function),
      ("arguments", .list (itemNodes arguments))]
  | .index container key =>
    .record [("type", .str "index"), ("container", node container), ("key", node key)]
  | .negate operand =>
    .record [("type", .str "operation"), ("operator", .str minusName), ("operand", node operand)]
  | .binary operator left right =>
    .record [("type", .str "operation"), ("left", node left), ("operator", .str operator.symbol),
      ("right", node right)]

/-- The syntax trees of several expressions. -/
def itemNodes : List Expr → List Value
  | [] => []
  | item :: items => node item :: itemNodes items

/-- The syntax trees of the entries of a dictionary. -/
def entryNodes : List (Expr × Expr) → List Value
  | [] => []
  | (key, value) :: rest =>
    .record [("key", node key), ("value", node value)] :: entryNodes rest

end

end Expr

/-- The syntax tree of what a loop runs through. -/
def LoopSource.node : LoopSource → Value
  | .name word => .str word
  | .enumerated word => .record [("type", .str "enumerate"), ("iterable", .str word)]

namespace Stmt

/-- The syntax tree of a branch with a test. -/
def branchNode (kind : String) (test : Value) (body : List Value) : Value :=
  .record [("type", .str kind), ("condition", test), ("body", .list body)]

/-- The syntax tree of the branch without a test. -/
def elseNode : Value :=
  .record [("type", .str "else"), ("body", .list [])]

mutual

/-- The syntax tree of a statement. -/
def node : Stmt → Value
  | .assign target value =>
    .record [("type", .str "assignment"), ("variable", .str target), ("value", value.node)]
  | .call function arguments => (Expr.call function arguments).node
  | .yield value => .record [("type", .str "return"), ("value", value.node)]
  | .decide test body others hasElse =>
    .record [("type", .str "decide"),
      ("conditions", .list (branchNode "if" test.node (nodes body) ::
        (otherNodes others ++ if hasElse then [elseNode] else [])))]
  | .forEach item source body =>
    .record [("type", .str "for_loop"), ("iterator", .str item), ("iterable", source.node),
      ("body", .list (nodes body))]
  | .forRange item bound body =>
    .record [("type", .str "range_loop"), ("iterator", .str item), ("range", bound.node),
      ("body", .list (nodes body))]
  | .forEnumerated index element collection body =>
    .record [("type", .str "enumerate_loop"), ("index", .str index), ("element", .str element),
      ("iterable", .str collection), ("body", .list (nodes body))]

/-- The syntax trees of several statements. -/
def nodes : List Stmt → List Value
  | [] => []
  | statement :: rest => node statement :: nodes rest

/-- The syntax trees of the branches after the first one. -/
def otherNodes : List (Expr × List Stmt) → List Value
  | [] => []
  | (test, body) :: rest => branchNode "elif" test.node (nodes body) :: otherNodes rest

end

end Stmt

/-- The syntax tree of a part of a task. -/
def Item.node : Item → Value
  | .step name body =>
    .record [("type", .str "step"), ("name", .str name), ("statements", .list (Stmt.nodes body))]
  | .subtask name body =>
    .record [("type", .str "subtask"), ("name", .str name), ("statements", .list (Stmt.nodes body))]

/-- The syntax tree of a task. -/
def Task.node (task : Task) : Value :=
  .record [("name", .str task.name), ("body", .list (task.items.map Item.node))]

/-- The syntax tree of a program. -/
def Program.node (program : Program) : Value :=
  .record [("objective", .str program.objective), ("tasks", .list (program.tasks.map Task.node)),
    ("runs", .texts program.runs)]

end Stepwise
