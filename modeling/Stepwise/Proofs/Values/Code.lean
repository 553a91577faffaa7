import Stepwise.Proofs.Shape.Tree
import Stepwise.Proofs.Values.Plain

/-!
# The code of programs

Any value can be read as code, and code of that kind may compute anything: ranges, enumerations,
dictionaries with any tag.  The syntax tree of a program is read as code that is `Tame`.  Its constants
are loose values, and it calls neither of the two functions whose names are reserved words.

Only terms whose values are stored or returned matter.  A test may be any term, and what a loop runs
through is looked up in the variables.
-/

namespace Stepwise

/-- Terms whose values are loose. -/
inductive Term.Tame : Term → Prop where
  | const {value : Value} (isLoose : value.Loose) : Tame (.const value)
  | var (name : String) : Tame (.var name)
  | list {items : List Term} (each : ∀ item ∈ items, Tame item) : Tame (.list items)
  | dict {entries : List (Term × Term)} (keys : ∀ entry ∈ entries, Tame entry.1)
      (values : ∀ entry ∈ entries, Tame entry.2) : Tame (.dict entries)
  | index {container key : Term} (inside : Tame container) (isKey : Tame key) :
      Tame (.index container key)
  | negate {operand : Term} (inside : Tame operand) : Tame (.negate operand)
  | binary (operator : Value) {left right : Term} (isLeft : Tame left) (isRight : Tame right) :
      Tame (.binary operator left right)
  | call {name : String} {arguments : List Term} (notRange : name ≠ "range")
      (notEnumerate : name ≠ "enumerate") (each : ∀ argument ∈ arguments, Tame argument) :
      Tame (.call (.str name) arguments)

mutual

/-- Actions that store and return loose values only. -/
inductive Action.Tame : Action → Prop where
  | skip : Action.Tame .skip
  | fault (cause : Fault) : Action.Tame (.fault cause)
  | assign (target : Except Fault Value) {value : Term} (inside : Term.Tame value) :
      Action.Tame (.assign target value)
  | call {term : Term} (inside : Term.Tame term) : Action.Tame (.call term)
  | yield {value : Term} (inside : Term.Tame value) : Action.Tame (.yield value)
  | decide {branches : List Branch} (each : ∀ branch ∈ branches, Branch.Tame branch) :
      Action.Tame (.decide branches)
  | forEach (item : Value) (source : LoopFeed) {body : List Action}
      (each : ∀ action ∈ body, Action.Tame action) : Action.Tame (.forEach item source body)
  | forRange (item : Value) (bound : Term) {body : List Action}
      (each : ∀ action ∈ body, Action.Tame action) : Action.Tame (.forRange item bound body)
  | forEnumerated (index element : Except Fault Value) (collection : Value) {body : List Action}
      (each : ∀ action ∈ body, Action.Tame action) :
      Action.Tame (.forEnumerated index element collection body)

/-- Branches with tame bodies. -/
inductive Branch.Tame : Branch → Prop where
  | fault (cause : Fault) : Branch.Tame (.fault cause)
  | test (isFirst : Bool) (test : Test) {body : List Action}
      (each : ∀ action ∈ body, Action.Tame action) : Branch.Tame (.test isFirst test body)
  | otherwise {body : List Action} (each : ∀ action ∈ body, Action.Tame action) :
      Branch.Tame (.otherwise body)

end

/-- Parts of a task with tame bodies. -/
inductive TaskItem.Tame : TaskItem → Prop where
  | fault (cause : Fault) : Tame (.fault cause)
  | step {code : StepCode} (each : ∀ action ∈ code.body, action.Tame) : Tame (.step code)
  | subtask (name : Except Fault Value) {body : List Action}
      (each : ∀ action ∈ body, action.Tame) : Tame (.subtask name body)
  | other : Tame .other

/-! ## Expressions -/

namespace Term

theorem ofNodes_eq_map (nodes : List Value) : ofNodes nodes = nodes.map ofNode := by
  induction nodes with
  | nil => rfl
  | cons node rest ih => simp [ofNodes, ih]

theorem pairs_entries (entries : List (Value × Value)) :
    pairs (entries.map fun entry => .record [("key", entry.1), ("value", entry.2)]) =
      entries.map fun entry => (ofNode entry.1, ofNode entry.2) := by
  induction entries with
  | nil => rfl
  | cons entry rest ih =>
      have first : pairOf (.record [("key", entry.1), ("value", entry.2)]) =
          (ofNode entry.1, ofNode entry.2) := rfl
      simp [pairs, first, ih]

end Term

theorem IsName.not_builtin {word : String} (isName : IsName word) :
    word ≠ "range" ∧ word ≠ "enumerate" := by
  constructor
  · rintro rfl
    exact absurd isName (by decide)
  · rintro rfl
    exact absurd isName (by decide)

theorem Term.tame_call {function : String} {arguments : List Value} (isName : IsName function)
    (each : ∀ argument ∈ arguments, (Term.ofNode argument).Tame) :
    (Term.call (.str function) (Term.ofNodes arguments)).Tame := by
  refine .call isName.not_builtin.1 isName.not_builtin.2 ?_
  rw [Term.ofNodes_eq_map]
  exact List.forall_mem_map.mpr each

theorem ExpressionTree.tame {node : Value} (tree : ExpressionTree node) :
    (Term.ofNode node).Tame := by
  induction tree with
  | name isVariable => exact .var _
  | int n => exact .const (Value.Simple.int n).loose
  | float x => exact .const (Value.Simple.float x).loose
  | text content => exact .const (Value.loose_textLiteral content)
  | list each ih =>
      refine .list ?_
      rw [Term.ofNodes_eq_map]
      exact List.forall_mem_map.mpr ih
  | dict keys values keysTame valuesTame =>
      have read := Term.pairs_entries ‹_›
      refine .dict ?_ ?_
      · rw [read]
        exact List.forall_mem_map.mpr keysTame
      · rw [read]
        exact List.forall_mem_map.mpr valuesTame
  | call isName each ih => exact Term.tame_call isName ih
  | index inside isKey insideTame keyTame => exact .index insideTame keyTame
  | negate inside ih => exact .negate ih
  | binary operator isLeft isRight leftTame rightTame => exact .binary _ leftTame rightTame

/-! ## Statements -/

namespace Action

theorem ofNodes_eq_map (nodes : List Value) : ofNodes nodes = nodes.map ofNode := by
  induction nodes with
  | nil => rfl
  | cons node rest ih => simp [ofNodes, ih]

theorem branches_eq_map (nodes : List Value) : branches nodes = nodes.map branchOfNode := by
  induction nodes with
  | nil => rfl
  | cons node rest ih => simp [branches, ih]

theorem tame_ofNodes {nodes : List Value} (each : ∀ node ∈ nodes, (ofNode node).Tame) :
    ∀ action ∈ ofNodes nodes, action.Tame := by
  rw [ofNodes_eq_map]
  exact List.forall_mem_map.mpr each

theorem tame_branches {first : Value × List Value} {others : List (Value × List Value)}
    (hasElse : Bool)
    (each : ∀ branch ∈ first :: others, ∀ statement ∈ branch.2, (ofNode statement).Tame) :
    ∀ branch ∈ branches (branchNodes first others hasElse), branch.Tame := by
  rw [branches_eq_map, List.forall_mem_map, branchNodes]
  simp only [List.forall_mem_cons, List.forall_mem_append, List.forall_mem_map,
    List.cons_append] at each ⊢
  refine ⟨.test true _ (tame_ofNodes each.1), fun branch member => ?_, fun node member => ?_⟩
  · exact .test false _ (tame_ofNodes (each.2 branch member))
  · cases hasElse with
    | true =>
        cases List.mem_singleton.mp member
        have empty : ∀ action ∈ ofNodes [], action.Tame := by simp [ofNodes]
        exact .otherwise empty
    | false => cases member

end Action

theorem StatementTree.tame {node : Value} (tree : StatementTree node) :
    (Action.ofNode node).Tame := by
  induction tree with
  | assign isName inside => exact .assign _ inside.tame
  | call isName each =>
      exact .call (Term.tame_call isName fun argument member => (each argument member).tame)
  | yield inside => exact .yield inside.tame
  | decide tests each last closed ih => exact .decide (Action.tame_branches _ ih)
  | forEach isName inside some each last ih =>
      cases inside with
      | name isSource => exact .forEach _ _ (Action.tame_ofNodes ih)
      | enumerated isSource => exact .forEach _ _ (Action.tame_ofNodes ih)
  | forRange isName inside some each last ih => exact .forRange _ _ (Action.tame_ofNodes ih)
  | forEnumerated isIndex isElement isCollection some each last ih =>
      exact .forEnumerated _ _ _ (Action.tame_ofNodes ih)

/-! ## Tasks -/

theorem ItemTree.tame {node : Value} (tree : ItemTree node) : (TaskItem.ofNode node).Tame := by
  cases tree with
  | step body =>
      exact .step (Action.tame_ofNodes fun node member => (body.each node member).tame)
  | subtask body =>
      exact .subtask _ (Action.tame_ofNodes fun node member => (body.each node member).tame)

theorem TaskTree.tame {node : Value} (tree : TaskTree node) :
    ∀ item ∈ TaskItem.itemsOf node, item.Tame := by
  cases tree with
  | task some each => exact List.forall_mem_map.mpr fun item member => (each item member).tame

end Stepwise
