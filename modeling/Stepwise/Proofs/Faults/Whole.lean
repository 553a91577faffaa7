import Stepwise.Proofs.Faults.Entries

/-!
# Whole code

The syntax tree of a program is read as code that lacks nothing but in two cases.  The condition of a
branch is taken for an operation on two operands, and the opposite of an operand has only one.  A loop
over an enumeration is asked for a second variable, and the tree of `for i in enumerate(xs)` names none.

`Whole` code has no other faults, and every action and part of a task in it is known.  In the two cases
it says where in the tree the condition or the loop stands.
-/

namespace Stepwise

/-! ## Parts of trees -/

/-- A value stands somewhere in another one. -/
inductive Value.Occurs (node : Value) : Value → Prop where
  | here : Occurs node node
  | item {items : List Value} {item : Value} (member : item ∈ items) (inside : Occurs node item) :
      Occurs node (.list items)
  | entry {entries : List (Value × Value)} {key value : Value} (member : (key, value) ∈ entries)
      (inside : Occurs node value) : Occurs node (.dict entries)

theorem Value.Occurs.trans {inner node outer : Value} (occurs : inner.Occurs node)
    (inside : node.Occurs outer) : inner.Occurs outer := by
  induction inside with
  | here => exact occurs
  | item member _ ih => exact .item member ih
  | entry member _ ih => exact .entry member ih

/-- The items of a list that is a field of a record. -/
theorem Value.occurs_field {fields : List (String × Value)} (name : String) {items : List Value}
    {item : Value} (field : (name, .list items) ∈ fields) (member : item ∈ items) :
    item.Occurs (.record fields) := by
  have isEntry : (Value.str name, Value.list items) ∈
      fields.map fun field => (Value.str field.1, field.2) := List.mem_map.mpr ⟨_, field, rfl⟩
  exact .entry isEntry (.item member .here)

/-- The syntax tree of the opposite of an operand. -/
def negationNode (operand : Value) : Value :=
  .record [("type", .str "operation"), ("operator", .str minusName), ("operand", operand)]

/-- The syntax tree of an enumeration as the source of a loop. -/
def enumerationNode (word : String) : Value :=
  .record [("type", .str "enumerate"), ("iterable", .str word)]

/-- The syntax tree of a loop over items. -/
def loopNode (item : String) (source : Value) (body : List Value) : Value :=
  .record [("type", .str "for_loop"), ("iterator", .str item), ("iterable", source),
    ("body", .list body)]

/-! ## Code -/

/-- Tests that lack nothing, or that are the opposite of an operand as a condition in the tree. -/
inductive Test.Whole (tree : Value) : Test → Prop where
  | plain {term : Term} (tame : term.Tame) (node : Value) : Whole tree (.plain term node)
  | operation {left right : Term} (isLeft : left.Tame) (isRight : right.Tame) (operator : Value) :
      Whole tree (.operation left right (.ok operator))
  | negation {first : Value × List Value} {others : List (Value × List Value)} {hasElse : Bool}
      {operand : Value} (choice : (choiceNode (branchNodes first others hasElse)).Occurs tree)
      (isTest : negationNode operand ∈ (first :: others).map Prod.fst) :
      Whole tree (Test.ofNode (negationNode operand))

/-- Sources that lack nothing, or that are the enumeration of a loop in the tree. -/
inductive LoopFeed.Whole (tree : Value) : LoopFeed → Prop where
  | direct (name : Value) : Whole tree (.direct name)
  | enumerated {item word : String} {body : List Value}
      (loop : (loopNode item (enumerationNode word) body).Occurs tree) :
      Whole tree (.enumerated (.str word) (.error (missingEntry "value_var")) (enumerationNode word))

mutual

/-- Known actions that lack nothing. -/
inductive Action.Whole (tree : Value) : Action → Prop where
  | assign (target : Value) {value : Term} (inside : Term.Tame value) :
      Action.Whole tree (.assign (.ok target) value)
  | call {term : Term} (inside : Term.Tame term) : Action.Whole tree (.call term)
  | yield {value : Term} (inside : Term.Tame value) : Action.Whole tree (.yield value)
  | decide {branches : List Branch} (each : ∀ branch ∈ branches, Branch.Whole tree branch) :
      Action.Whole tree (.decide branches)
  | forEach (item : Value) {source : LoopFeed} {body : List Action} (known : source.Whole tree)
      (each : ∀ action ∈ body, Action.Whole tree action) :
      Action.Whole tree (.forEach item source body)
  | forRange (item : Value) {bound : Term} {body : List Action} (inside : Term.Tame bound)
      (each : ∀ action ∈ body, Action.Whole tree action) :
      Action.Whole tree (.forRange item bound body)
  | forEnumerated (index element collection : Value) {body : List Action}
      (each : ∀ action ∈ body, Action.Whole tree action) :
      Action.Whole tree (.forEnumerated (.ok index) (.ok element) collection body)

/-- Branches that lack nothing. -/
inductive Branch.Whole (tree : Value) : Branch → Prop where
  | test (isFirst : Bool) {test : Test} {body : List Action} (known : test.Whole tree)
      (each : ∀ action ∈ body, Action.Whole tree action) :
      Branch.Whole tree (.test isFirst test body)
  | otherwise {body : List Action} (each : ∀ action ∈ body, Action.Whole tree action) :
      Branch.Whole tree (.otherwise body)

end

/-- Known parts of tasks that lack nothing. -/
inductive TaskItem.Whole (tree : Value) : TaskItem → Prop where
  | step (name : Value) {body : List Action} (each : ∀ action ∈ body, action.Whole tree) :
      Whole tree (.step ⟨.ok name, body⟩)
  | subtask (name : Value) {body : List Action} (each : ∀ action ∈ body, action.Whole tree) :
      Whole tree (.subtask (.ok name) body)

/-! ## The code of trees -/

section Trees

variable {program : Value}

theorem Action.whole_ofNodes {nodes : List Value}
    (each : ∀ node ∈ nodes, (ofNode node).Whole program) :
    ∀ action ∈ ofNodes nodes, action.Whole program := by
  rw [ofNodes_eq_map]
  exact List.forall_mem_map.mpr each

section Choices

variable {first : Value × List Value} {others : List (Value × List Value)} {hasElse : Bool}
  (choice : (choiceNode (branchNodes first others hasElse)).Occurs program)
include choice

theorem ExpressionTree.whole_test {node : Value} (tree : ExpressionTree node)
    (isTest : node ∈ (first :: others).map Prod.fst) : (Test.ofNode node).Whole program := by
  have tame := tree.tame
  cases tree with
  | negate inside => exact .negation choice isTest
  | binary operator isLeft isRight => exact .operation isLeft.tame isRight.tame _
  | name | int | float | text | list | dict | call | index => exact .plain tame _

/-- The statements in the branches of a choice stand in the tree. -/
theorem occurs_branch {branch : Value × List Value} (member : branch ∈ first :: others)
    {statement : Value} (inside : statement ∈ branch.2) : statement.Occurs program := by
  have isBranch : ∃ kind, Stmt.branchNode kind branch.1 branch.2 ∈ branchNodes first others hasElse := by
    rcases List.mem_cons.mp member with rfl | isOther
    · exact ⟨"if", by simp [branchNodes]⟩
    · refine ⟨"elif", ?_⟩
      simp only [branchNodes, List.cons_append, List.mem_cons, List.mem_append, List.mem_map]
      exact .inr (.inl ⟨branch, isOther, rfl⟩)
  obtain ⟨kind, isBranch⟩ := isBranch
  have inBranch : statement.Occurs (Stmt.branchNode kind branch.1 branch.2) :=
    Value.occurs_field "body" (by simp) inside
  have inChoice : (Stmt.branchNode kind branch.1 branch.2).Occurs
      (choiceNode (branchNodes first others hasElse)) :=
    Value.occurs_field "conditions" (by simp) isBranch
  exact inBranch.trans (inChoice.trans choice)

theorem Action.whole_branches (tests : ∀ branch ∈ first :: others, ExpressionTree branch.1)
    (each : ∀ branch ∈ first :: others, ∀ statement ∈ branch.2,
      statement.Occurs program → (ofNode statement).Whole program) :
    ∀ branch ∈ branches (branchNodes first others hasElse), branch.Whole program := by
  have body : ∀ branch ∈ first :: others, ∀ action ∈ ofNodes branch.2, action.Whole program :=
    fun branch member => whole_ofNodes fun statement inside =>
      each branch member statement inside (occurs_branch choice member inside)
  have test : ∀ branch ∈ first :: others, (Test.ofNode branch.1).Whole program :=
    fun branch member => (tests branch member).whole_test choice (List.mem_map_of_mem member)
  rw [branches_eq_map, List.forall_mem_map, branchNodes]
  simp only [List.forall_mem_cons, List.forall_mem_append, List.forall_mem_map,
    List.cons_append] at body test ⊢
  refine ⟨.test true test.1 body.1, fun branch member => ?_, fun node member => ?_⟩
  · exact .test false (test.2 branch member) (body.2 branch member)
  · cases hasElse with
    | true =>
        cases List.mem_singleton.mp member
        have empty : ∀ action ∈ ofNodes [], action.Whole program := by simp [ofNodes]
        exact .otherwise empty
    | false => cases member

end Choices

theorem StatementTree.whole {node : Value} (tree : StatementTree node) (occurs : node.Occurs program) :
    (Action.ofNode node).Whole program := by
  induction tree with
  | assign isName inside => exact .assign _ inside.tame
  | call isName each =>
      exact .call (Term.tame_call isName fun argument member => (each argument member).tame)
  | yield inside => exact .yield inside.tame
  | decide tests each last closed ih => exact .decide (Action.whole_branches occurs tests ih)
  | @forEach item source body isName inside some each last ih =>
      have isBody := Action.whole_ofNodes fun statement member =>
        ih statement member ((Value.occurs_field "body" (by simp) member).trans occurs)
      cases inside with
      | name isSource => exact .forEach _ (.direct _) isBody
      | enumerated isSource => exact .forEach _ (.enumerated occurs) isBody
  | forRange isName inside some each last ih =>
      refine .forRange _ inside.tame (Action.whole_ofNodes fun statement member => ?_)
      exact ih statement member ((Value.occurs_field "body" (by simp) member).trans occurs)
  | forEnumerated isIndex isElement isCollection some each last ih =>
      refine .forEnumerated _ _ _ (Action.whole_ofNodes fun statement member => ?_)
      exact ih statement member ((Value.occurs_field "body" (by simp) member).trans occurs)

theorem BodyTree.whole {statements : List Value} (body : BodyTree statements)
    (occurs : ∀ statement ∈ statements, statement.Occurs program) :
    ∀ action ∈ Action.ofNodes statements, action.Whole program :=
  Action.whole_ofNodes fun statement member =>
    (body.each statement member).whole (occurs statement member)

theorem ItemTree.whole {node : Value} (tree : ItemTree node) (occurs : node.Occurs program) :
    (TaskItem.ofNode node).Whole program := by
  cases tree with
  | step body =>
      exact .step _ (body.whole fun statement member =>
        (Value.occurs_field "statements" (by simp) member).trans occurs)
  | subtask body =>
      exact .subtask _ (body.whole fun statement member =>
        (Value.occurs_field "statements" (by simp) member).trans occurs)

theorem TaskTree.whole {node : Value} (tree : TaskTree node) (occurs : node.Occurs program) :
    ∀ item ∈ TaskItem.itemsOf node, item.Whole program := by
  cases tree with
  | @task name items some each =>
      refine List.forall_mem_map.mpr fun item (member : item ∈ items) => ?_
      exact (each item member).whole ((Value.occurs_field "body" (by simp) member).trans occurs)

end Trees

end Stepwise
