import Stepwise.Proofs.Printing.Printer

/-!
# The shape of syntax trees

What the syntax tree of a program that was read from a text looks like, said of the tree itself and
not of the program it stands for.

Two rules on choices have no counterpart in the abstract syntax.  A choice has no closing word, so it
stands at the end of the list of statements that it belongs to (`ChoiceLast`).  An alternative belongs
to the innermost choice that is open, so a branch in front of another one may end with a choice only if
that choice has its own `else` (`EndsClosed`).
-/

namespace Stepwise

/-- The syntax trees of expressions.  A quoted text is wrapped twice. -/
inductive ExpressionTree : Value → Prop where
  | name {word : String} (isVariable : IsVariable word) : ExpressionTree (.str word)
  | int (n : Int) : ExpressionTree (.int n)
  | float (x : Float) : ExpressionTree (.float x)
  | text (content : String) : ExpressionTree (.textLiteral (.textLiteral (.str content)))
  | list {items : List Value} (each : ∀ item ∈ items, ExpressionTree item) :
      ExpressionTree (.record [("type", .str "list"), ("items", .list items)])
  | dict {entries : List (Value × Value)} (keys : ∀ entry ∈ entries, ExpressionTree entry.1)
      (values : ∀ entry ∈ entries, ExpressionTree entry.2) :
      ExpressionTree (.record [("type", .str "dict"), ("entries", .list
        (entries.map fun entry => .record [("key", entry.1), ("value", entry.2)]))])
  | call {function : String} {arguments : List Value} (isName : IsName function)
      (each : ∀ argument ∈ arguments, ExpressionTree argument) :
      ExpressionTree (.record [("type", .str "function_call"), ("name", .str function),
        ("arguments", .list arguments)])
  | index {container key : Value} (inside : ExpressionTree container)
      (isKey : ExpressionTree key) :
      ExpressionTree (.record [("type", .str "index"), ("container", container), ("key", key)])
  | negate {operand : Value} (inside : ExpressionTree operand) :
      ExpressionTree (.record [("type", .str "operation"), ("operator", .str minusName),
        ("operand", operand)])
  | binary (operator : Operator) {left right : Value} (isLeft : ExpressionTree left)
      (isRight : ExpressionTree right) :
      ExpressionTree (.record [("type", .str "operation"), ("left", left),
        ("operator", .str operator.symbol), ("right", right)])

/-- Whether a syntax tree is that of a choice. -/
def Value.isChoice (tree : Value) : Bool :=
  tree.hasTag "decide"

/-- The syntax tree of a choice, given those of its branches. -/
def choiceNode (conditions : List Value) : Value :=
  .record [("type", .str "decide"), ("conditions", .list conditions)]

/-- Only the last of the statements may be a choice. -/
def ChoiceLast (statements : List Value) : Prop :=
  ∀ statement ∈ statements.dropLast, statement.isChoice = false

/-- If the last of the statements is a choice, then that choice has an `else`. -/
def EndsClosed (statements : List Value) : Prop :=
  ∀ last ∈ statements.getLast?, last.isChoice = true →
    ∃ before, last = choiceNode (before ++ [Stmt.elseNode])

/-- The syntax trees of what a loop over items runs through. -/
inductive SourceTree : Value → Prop where
  | name {word : String} (isName : IsName word) : SourceTree (.str word)
  | enumerated {word : String} (isName : IsName word) :
      SourceTree (.record [("type", .str "enumerate"), ("iterable", .str word)])

/-- The syntax trees of the branches of a choice: one `if`, any number of `elif`, and at most one
`else`, whose body is empty. -/
def branchNodes (first : Value × List Value) (others : List (Value × List Value))
    (hasElse : Bool) : List Value :=
  Stmt.branchNode "if" first.1 first.2 ::
    (others.map fun branch => Stmt.branchNode "elif" branch.1 branch.2) ++
      if hasElse then [Stmt.elseNode] else []

/-- The syntax trees of statements. -/
inductive StatementTree : Value → Prop where
  | assign {target : String} {value : Value} (isName : IsName target)
      (inside : ExpressionTree value) :
      StatementTree (.record [("type", .str "assignment"), ("variable", .str target),
        ("value", value)])
  | call {function : String} {arguments : List Value} (isName : IsName function)
      (each : ∀ argument ∈ arguments, ExpressionTree argument) :
      StatementTree (.record [("type", .str "function_call"), ("name", .str function),
        ("arguments", .list arguments)])
  | yield {value : Value} (inside : ExpressionTree value) :
      StatementTree (.record [("type", .str "return"), ("value", value)])
  | decide {first : Value × List Value} {others : List (Value × List Value)} {hasElse : Bool}
      (tests : ∀ branch ∈ first :: others, ExpressionTree branch.1)
      (each : ∀ branch ∈ first :: others, ∀ statement ∈ branch.2, StatementTree statement)
      (last : ∀ branch ∈ first :: others, ChoiceLast branch.2)
      (closed : ∀ kind test body,
        Stmt.branchNode kind test body ∈ (branchNodes first others hasElse).dropLast →
          EndsClosed body) :
      StatementTree (choiceNode (branchNodes first others hasElse))
  | forEach {item : String} {source : Value} {body : List Value} (isName : IsName item)
      (inside : SourceTree source) (some : body ≠ [])
      (each : ∀ statement ∈ body, StatementTree statement) (last : ChoiceLast body) :
      StatementTree (.record [("type", .str "for_loop"), ("iterator", .str item),
        ("iterable", source), ("body", .list body)])
  | forRange {item : String} {bound : Value} {body : List Value} (isName : IsName item)
      (inside : ExpressionTree bound) (some : body ≠ [])
      (each : ∀ statement ∈ body, StatementTree statement) (last : ChoiceLast body) :
      StatementTree (.record [("type", .str "range_loop"), ("iterator", .str item),
        ("range", bound), ("body", .list body)])
  | forEnumerated {index element collection : String} {body : List Value}
      (isIndex : IsName index) (isElement : IsName element) (isCollection : IsName collection)
      (some : body ≠ []) (each : ∀ statement ∈ body, StatementTree statement)
      (last : ChoiceLast body) :
      StatementTree (.record [("type", .str "enumerate_loop"), ("index", .str index),
        ("element", .str element), ("iterable", .str collection), ("body", .list body)])

/-- The syntax trees of the statements of a step or subtask, which may be none. -/
structure BodyTree (statements : List Value) : Prop where
  each : ∀ statement ∈ statements, StatementTree statement
  last : ChoiceLast statements

/-- The syntax trees of steps and subtasks. -/
inductive ItemTree : Value → Prop where
  | step {name : String} {statements : List Value} (body : BodyTree statements) :
      ItemTree (.record [("type", .str "step"), ("name", .str name),
        ("statements", .list statements)])
  | subtask {name : String} {statements : List Value} (body : BodyTree statements) :
      ItemTree (.record [("type", .str "subtask"), ("name", .str name),
        ("statements", .list statements)])

/-- The syntax trees of tasks. -/
inductive TaskTree : Value → Prop where
  | task {name : String} {items : List Value} (some : items ≠ [])
      (each : ∀ item ∈ items, ItemTree item) :
      TaskTree (.record [("name", .str name), ("body", .list items)])

/-- The syntax trees of programs. -/
inductive ProgramTree : Value → Prop where
  | program {objective : String} {tasks : List Value} {runs : List String}
      (someTask : tasks ≠ []) (each : ∀ task ∈ tasks, TaskTree task) (someRun : runs ≠ []) :
      ProgramTree (.record [("objective", .str objective), ("tasks", .list tasks),
        ("runs", .texts runs)])

/-! ## Trees of the abstract syntax -/

namespace Expr

theorem itemNodes_eq_map (items : List Expr) : itemNodes items = items.map node := by
  induction items with
  | nil => rfl
  | cons item items ih => simp [itemNodes, ih]

theorem entryNodes_eq_map (entries : List (Expr × Expr)) :
    entryNodes entries =
      (entries.map fun entry => (entry.1.node, entry.2.node)).map fun entry =>
        .record [("key", entry.1), ("value", entry.2)] := by
  induction entries with
  | nil => rfl
  | cons entry entries ih => simp [entryNodes, ih]

end Expr

namespace Stmt

theorem nodes_eq_map (statements : List Stmt) : nodes statements = statements.map node := by
  induction statements with
  | nil => rfl
  | cons statement rest ih => simp [nodes, ih]

/-- The syntax trees of a branch: that of its test and those of its body. -/
def branchTrees (branch : Expr × List Stmt) : Value × List Value :=
  (branch.1.node, nodes branch.2)

theorem otherNodes_eq_map (others : List (Expr × List Stmt)) :
    otherNodes others = (others.map branchTrees).map fun branch =>
      branchNode "elif" branch.1 branch.2 := by
  induction others with
  | nil => rfl
  | cons branch rest ih => simp [otherNodes, branchTrees, ih]

theorem node_decide (test : Expr) (body : List Stmt) (others : List (Expr × List Stmt))
    (hasElse : Bool) :
    (Stmt.decide test body others hasElse).node =
      choiceNode (branchNodes (branchTrees (test, body)) (others.map branchTrees) hasElse) := by
  simp [node, choiceNode, branchNodes, branchTrees, otherNodes_eq_map]

theorem isChoice_node (statement : Stmt) : statement.node.isChoice = statement.isDecide := by
  cases statement <;> simp [node, Expr.node, Value.isChoice, Value.hasTag, Value.entry?,
    Value.record, Table.fetch?, Value.same, isDecide]

theorem choiceLast_nodes {statements : List Stmt}
    (last : ∀ statement ∈ statements.dropLast, statement.isDecide = false) :
    ChoiceLast (nodes statements) := by
  rw [ChoiceLast, nodes_eq_map, ← List.map_dropLast]
  intro tree member
  obtain ⟨statement, isBefore, rfl⟩ := List.mem_map.mp member
  rw [isChoice_node]
  exact last statement isBefore

theorem endsClosed_nodes {statements : List Stmt} (closed : endsOpen statements = false) :
    EndsClosed (nodes statements) := by
  rw [EndsClosed, nodes_eq_map, List.getLast?_map]
  intro tree member isChoice
  obtain ⟨statement, isLast, rfl⟩ := Option.map_eq_some_iff.mp member
  rw [isChoice_node] at isChoice
  cases statement with
  | decide test body others hasElse =>
      have hasElse : hasElse = true := by simpa [endsOpen, isLast] using closed
      rw [node_decide, hasElse]
      exact ⟨_, rfl⟩
  | _ => cases isChoice

end Stmt

end Stepwise
