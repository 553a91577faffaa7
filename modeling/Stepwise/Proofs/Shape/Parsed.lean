import Stepwise.Proofs.NextToken
import Stepwise.Proofs.Shape.Tree
import Stepwise.Proofs.Soundness

/-!
# Programs that are read have trees of the right shape

`Parse.Gives` states what holds of the result of a parser and of the tokens that it leaves, with one
rule for each way of putting parsers together, and `Phrases.Shaped` states it for a family of parsers.

The tokens that are left matter for lists of statements alone.  Such a list ends only where no statement
follows, and one that ends with a choice without `else` only where no alternative follows either
(`ReadBody`).  So nothing can follow a choice in its list, and an alternative that does follow a branch
belongs to a choice around it.
-/

namespace Stepwise

/-- A token that is a name is written like one. -/
def Token.Named (token : Token) : Prop :=
  ∀ word, token = .name word → IsName word

def Named (tokens : List Placed) : Prop :=
  ∀ placed ∈ tokens, placed.token.Named

namespace Parse

variable {α β : Type}

/-! ## Results of parsers -/

/-- Whatever the parser makes of named tokens, and the tokens that it leaves, have a property. -/
def Gives (parse : Parse α) (post : α → List Placed → Prop) : Prop :=
  ∀ tokens value rest, Named tokens → parse tokens = .ok (value, rest) →
    Named rest ∧ post value rest

namespace Gives

variable {post : α → List Placed → Prop}

theorem pure {value : α} (holds : ∀ rest, post value rest) : Gives (Pure.pure value) post := by
  intro tokens found rest named read
  cases read
  exact ⟨named, holds _⟩

theorem stuck : Gives Parse.stuck post := by
  intro tokens value rest _ read
  cases read

/-- What is known of the first result does not speak of the tokens behind it. -/
theorem bind {property : β → Prop} {parse : Parse β} {next : β → Parse α}
    (first : Gives parse fun value _ => property value)
    (second : ∀ value, property value → Gives (next value) post) :
    Gives (parse >>= next) post := by
  intro tokens result rest named read
  obtain ⟨value, middle, readFirst, readSecond⟩ := bind_eq_ok.mp read
  obtain ⟨namedMiddle, holds⟩ := first tokens value middle named readFirst
  exact second value holds middle result rest namedMiddle readSecond

theorem map {stronger : β → List Placed → Prop} {parse : Parse β} {build : β → α}
    (gives : Gives parse stronger)
    (implied : ∀ value rest, stronger value rest → post (build value) rest) :
    Gives (do return build (← parse)) post := by
  intro tokens result rest named read
  obtain ⟨value, middle, readFirst, read⟩ := bind_eq_ok.mp read
  cases read
  obtain ⟨namedRest, holds⟩ := gives tokens value _ named readFirst
  exact ⟨namedRest, implied value _ holds⟩

theorem choose {next : Token → Option (Parse α)} {other : Parse α}
    (taken : ∀ token, token.Named → ∀ parse ∈ next token, Gives parse post)
    (left : Gives other post) : Gives (Parse.choose next other) post := by
  intro tokens value rest named read
  cases tokens with
  | nil => exact left [] value rest named read
  | cons first tokens =>
      have namedFirst := named first List.mem_cons_self
      have namedRest : Named tokens := fun placed member =>
        named placed (List.mem_cons_of_mem first member)
      cases known : next first.token with
      | none =>
          rw [choose_none known] at read
          exact left _ value rest named read
      | some parse =>
          rw [choose_some known] at read
          exact taken first.token namedFirst parse known tokens value rest namedRest read

theorem take {read : Token → Option α} {property : α → Prop}
    (holds : ∀ token, token.Named → ∀ value ∈ read token, property value) :
    Gives (Parse.take read) fun value _ => property value := by
  apply choose _ stuck
  intro token named parse known
  obtain ⟨value, found, rfl⟩ := Option.map_eq_some_iff.mp known
  exact pure fun _ => holds token named value found

theorem keyword (reserved : Keyword) : Gives (Parse.keyword reserved) fun _ _ => True :=
  take fun _ _ _ _ => trivial

theorem mark (sign : Mark) : Gives (Parse.mark sign) fun _ _ => True :=
  take fun _ _ _ _ => trivial

theorem text : Gives Parse.text fun _ _ => True :=
  take fun _ _ _ _ => trivial

theorem name : Gives Parse.name fun word _ => IsName word := by
  apply take
  intro token named word known
  split at known
  · cases known
    exact named word rfl
  · cases known

theorem ifNext {token : Token} {present absent : Parse α} (taken : Gives present post)
    (left : Gives absent post) : Gives (Parse.ifNext token present absent) post := by
  apply choose _ left
  intro next _ parse known
  split at known
  · cases known
    exact taken
  · cases known

theorem follows (test : Token → Bool) : Gives (Parse.follows test) fun _ _ => True := by
  intro tokens value rest named read
  cases tokens <;> cases read <;> exact ⟨named, trivial⟩

theorem afterOperator {kind : Token → Option Operator} {left : Expr} {go : Operator → Parse Expr}
    {post : Expr → List Placed → Prop} (taken : ∀ operator, Gives (go operator) post)
    (alone : ∀ rest, post left rest) : Gives (Parse.afterOperator kind left go) post := by
  apply choose _ (pure alone)
  intro token _ parse known
  obtain ⟨operator, -, rfl⟩ := Option.map_eq_some_iff.mp known
  exact taken operator

end Gives

/-! ## What is known of each phrase -/

/-- The parser reads expressions. -/
def GivesExpression (parse : Parse Expr) : Prop :=
  Gives parse fun found _ => ExpressionTree found.node

/-- The statements were read as a list, and the tokens are what is left. -/
structure ReadBody (body : List Stmt) (rest : List Placed) : Prop where
  each : ∀ statement ∈ body, StatementTree statement.node
  last : ∀ statement ∈ body.dropLast, statement.isDecide = false
  ended : Ahead (! startsStatement ·) rest
  settled : Stmt.endsOpen body = true → Ahead endsBranches rest

/-- A statement was read, and the tokens are what is left. -/
structure ReadStatement (statement : Stmt) (rest : List Placed) : Prop where
  tree : StatementTree statement.node
  ended : statement.isDecide = true → Ahead (! startsStatement ·) rest
  settled : Stmt.endsOpen [statement] = true → Ahead endsBranches rest

/-- The branches that another branch follows. -/
def followed (hasElse : Bool) (branches : List (Expr × List Stmt)) : List (Expr × List Stmt) :=
  if hasElse then branches else branches.dropLast

/-- Branches with a test were read. -/
structure ReadBranches (branches : List (Expr × List Stmt)) (hasElse : Bool) : Prop where
  tests : ∀ branch ∈ branches, ExpressionTree branch.1.node
  each : ∀ branch ∈ branches, ∀ statement ∈ branch.2, StatementTree statement.node
  last : ∀ branch ∈ branches, ∀ statement ∈ branch.2.dropLast, statement.isDecide = false
  closed : ∀ branch ∈ followed hasElse branches, Stmt.endsOpen branch.2 = false

/-- The branches behind one with a test were read from the tokens, and `rest` is what is left. -/
structure ReadOthers (tokens : List Placed) (found : List (Expr × List Stmt) × Bool)
    (rest : List Placed) : Prop where
  branches : ReadBranches found.1 found.2
  absent : Ahead endsBranches tokens → found = ([], false)
  ended : Ahead (! startsStatement ·) tokens → Ahead (! startsStatement ·) rest
  settled : found.2 = false → Ahead endsBranches rest

end Parse

open Parse in
/-- Every parser of the family gives what its phrase has to be. -/
structure Phrases.Shaped (phrases : Phrases) : Prop where
  expression : GivesExpression phrases.expression
  sum : ∀ left, ExpressionTree left.node → GivesExpression (phrases.sum left)
  product : ∀ left, ExpressionTree left.node → GivesExpression (phrases.product left)
  factor : GivesExpression phrases.factor
  indices : ∀ container, ExpressionTree container.node → GivesExpression (phrases.indices container)
  expressions : Gives phrases.expressions fun items _ => ∀ item ∈ items, ExpressionTree item.node
  entries : Gives phrases.entries fun entries _ =>
    ∀ entry ∈ entries, ExpressionTree entry.1.node ∧ ExpressionTree entry.2.node
  statements : Gives phrases.statements ReadBody
  noStatements : ∀ tokens body rest, Ahead (! startsStatement ·) tokens →
    phrases.statements tokens = .ok (body, rest) → body = [] ∧ rest = tokens
  otherBranches : ∀ tokens found rest, Named tokens →
    phrases.otherBranches tokens = .ok (found, rest) → Named rest ∧ ReadOthers tokens found rest
  items : Gives phrases.items fun items _ => items ≠ [] ∧ ∀ item ∈ items, ItemTree item.node
  tasks : Gives phrases.tasks fun tasks _ => tasks ≠ [] ∧ ∀ task ∈ tasks, TaskTree task.node
  runs : Gives phrases.runs fun runs _ => runs ≠ []

namespace Parse

variable {inner : Phrases}

/-! ## Expressions -/

theorem callTree {function : String} {arguments : List Expr} (isName : IsName function)
    (each : ∀ argument ∈ arguments, ExpressionTree argument.node) :
    ExpressionTree (Expr.call function arguments).node := by
  rw [Expr.node, Expr.itemNodes_eq_map]
  apply ExpressionTree.call isName
  simpa using each

theorem listTree {items : List Expr} (each : ∀ item ∈ items, ExpressionTree item.node) :
    ExpressionTree (Expr.list items).node := by
  rw [Expr.node, Expr.itemNodes_eq_map]
  apply ExpressionTree.list
  simpa using each

theorem dictTree {entries : List (Expr × Expr)}
    (each : ∀ entry ∈ entries, ExpressionTree entry.1.node ∧ ExpressionTree entry.2.node) :
    ExpressionTree (Expr.dict entries).node := by
  rw [Expr.node, Expr.entryNodes_eq_map]
  apply ExpressionTree.dict
  · intro _ member
    obtain ⟨entry, isEntry, rfl⟩ := List.mem_map.mp member
    exact (each entry isEntry).1
  · intro _ member
    obtain ⟨entry, isEntry, rfl⟩ := List.mem_map.mp member
    exact (each entry isEntry).2

theorem binaryTree (operator : Operator) {left right : Expr} (isLeft : ExpressionTree left.node)
    (isRight : ExpressionTree right.node) :
    ExpressionTree (Expr.binary operator left right).node := by
  rw [Expr.node]
  exact .binary operator isLeft isRight

/-- A name may stand as an expression. -/
theorem isVariable_of_isName {word : String} (isName : IsName word) : IsVariable word := by
  refine ⟨isName.1, ?_⟩
  have made := isName.2
  unfold Token.ofWord at made
  split at made
  · cases made
  · assumption

theorem isVariable_truthWord (holds : Bool) : IsVariable (Token.truthWord holds) := by
  cases holds <;> decide +kernel

section Expressions

variable (shaped : inner.Shaped)

include shaped

theorem indices_gives {container : Expr} (tree : ExpressionTree container.node) :
    GivesExpression (indices inner container) := by
  apply Gives.ifNext _ (.pure fun _ => tree)
  refine shaped.expression.bind fun key isKey => ?_
  refine (Gives.mark _).bind fun _ _ => shaped.indices _ ?_
  rw [Expr.node]
  exact .index tree isKey

theorem arguments_gives :
    Gives (arguments inner) fun items _ => ∀ item ∈ items, ExpressionTree item.node := by
  apply Gives.ifNext (.pure fun _ => by simp)
  refine shaped.expressions.bind fun found each => ?_
  exact (Gives.mark _).bind fun _ _ => .pure fun _ => each

theorem primaryAfter_gives {token : Token} (named : token.Named) :
    ∀ parse ∈ primaryAfter inner token, GivesExpression parse := by
  intro parse known
  unfold primaryAfter at known
  split at known <;> cases known
  · next word =>
      have isName := named word rfl
      apply Gives.ifNext
      · exact (arguments_gives shaped).bind fun found each => .pure fun _ => callTree isName each
      · refine .pure fun _ => ?_
        rw [Expr.node]
        exact .name (isVariable_of_isName isName)
  · next holds =>
      refine .pure fun _ => ?_
      rw [Expr.node]
      exact .name (isVariable_truthWord holds)
  · next n =>
      refine .pure fun _ => ?_
      rw [Expr.node]
      exact .int n
  · next x =>
      refine .pure fun _ => ?_
      rw [Expr.node]
      exact .float x
  · next content =>
      refine .pure fun _ => ?_
      rw [Expr.node]
      exact .text content
  · apply Gives.ifNext (.pure fun _ => listTree (by simp))
    refine shaped.expressions.bind fun items each => ?_
    exact (Gives.mark _).bind fun _ _ => .pure fun _ => listTree each
  · apply Gives.ifNext (.pure fun _ => dictTree (by simp))
    refine shaped.entries.bind fun found each => ?_
    exact (Gives.mark _).bind fun _ _ => .pure fun _ => dictTree each
  · refine shaped.expression.bind fun group tree => ?_
    exact (Gives.mark _).bind fun _ _ => .pure fun _ => tree

theorem factor_gives : GivesExpression (factor inner) := by
  apply Gives.ifNext
  · refine shaped.factor.bind fun operand tree => .pure fun _ => ?_
    rw [Expr.node]
    exact .negate tree
  · have primary : GivesExpression (primary inner) :=
      .choose (fun _ named => primaryAfter_gives shaped named) .stuck
    exact primary.bind fun _ tree => indices_gives shaped tree

theorem product_gives {left : Expr} (tree : ExpressionTree left.node) :
    GivesExpression (product inner left) := by
  apply Gives.afterOperator _ fun _ => tree
  intro operator
  exact (factor_gives shaped).bind fun right isRight =>
    shaped.product _ (binaryTree operator tree isRight)

theorem sum_gives {left : Expr} (tree : ExpressionTree left.node) :
    GivesExpression (sum inner left) := by
  apply Gives.afterOperator _ fun _ => tree
  intro operator
  refine (factor_gives shaped).bind fun first isFirst => ?_
  exact (product_gives shaped isFirst).bind fun right isRight =>
    shaped.sum _ (binaryTree operator tree isRight)

theorem comparison_gives {left : Expr} (tree : ExpressionTree left.node) :
    GivesExpression (comparison inner left) := by
  apply Gives.afterOperator _ fun _ => tree
  intro operator
  refine (factor_gives shaped).bind fun first isFirst => ?_
  refine (product_gives shaped isFirst).bind fun term isTerm => ?_
  exact (sum_gives shaped isTerm).bind fun right isRight =>
    .pure fun _ => binaryTree operator tree isRight

theorem operation_gives {left : Expr} (tree : ExpressionTree left.node) :
    GivesExpression (operation inner left) := by
  refine (product_gives shaped tree).bind fun term isTerm => ?_
  exact (sum_gives shaped isTerm).bind fun _ isSum => comparison_gives shaped isSum

theorem expression_gives : GivesExpression (expression inner) := by
  apply Gives.ifNext
  · refine shaped.expression.bind fun group tree => (Gives.mark _).bind fun _ _ => ?_
    refine (Gives.follows isOperator).bind fun operatorFollows _ => ?_
    cases operatorFollows with
    | false => exact indices_gives shaped tree
    | true => exact operation_gives shaped tree
  · exact (factor_gives shaped).bind fun _ tree => operation_gives shaped tree

theorem expressions_gives :
    Gives (expressions inner) fun items _ => ∀ item ∈ items, ExpressionTree item.node := by
  refine (expression_gives shaped).bind fun first tree => ?_
  apply Gives.ifNext
  · exact shaped.expressions.bind fun items each => .pure fun _ => by simpa [tree] using each
  · exact .pure fun _ => by simpa using tree

theorem entries_gives : Gives (entries inner) fun entries _ =>
    ∀ entry ∈ entries, ExpressionTree entry.1.node ∧ ExpressionTree entry.2.node := by
  refine (expression_gives shaped).bind fun key isKey => (Gives.mark _).bind fun _ _ => ?_
  refine (expression_gives shaped).bind fun value isValue => ?_
  apply Gives.ifNext
  · exact shaped.entries.bind fun entries each =>
      .pure fun _ => by simpa [isKey, isValue] using each
  · exact .pure fun _ => by simpa using ⟨isKey, isValue⟩

end Expressions

/-! ## Choices -/

theorem mem_followed_cons {hasElse : Bool} {branch first : Expr × List Stmt}
    {others : List (Expr × List Stmt)} (member : branch ∈ followed hasElse (first :: others)) :
    (branch = first ∧ (others, hasElse) ≠ ([], false)) ∨ branch ∈ followed hasElse others := by
  cases hasElse with
  | true => simpa [followed] using member
  | false =>
      cases others with
      | nil => simp [followed] at member
      | cons second others => simpa [followed] using member

section Choices

variable {first : Expr × List Stmt} {others : List (Expr × List Stmt)} {hasElse : Bool}

/-- The syntax trees of the branches but the last one are those of the branches that are followed. -/
theorem mem_branchNodes_dropLast {tree : Value}
    (member : tree ∈ (branchNodes (Stmt.branchTrees first) (others.map Stmt.branchTrees)
      hasElse).dropLast) :
    ∃ kind, ∃ branch ∈ followed hasElse (first :: others),
      tree = Stmt.branchNode kind branch.1.node (Stmt.nodes branch.2) := by
  cases hasElse with
  | true =>
      simp only [branchNodes, if_true, List.dropLast_concat] at member
      rcases List.mem_cons.mp member with rfl | member
      · exact ⟨_, first, List.mem_cons_self, rfl⟩
      · rw [List.map_map] at member
        obtain ⟨branch, isOther, rfl⟩ := List.mem_map.mp member
        exact ⟨_, branch, List.mem_cons_of_mem first isOther, rfl⟩
  | false =>
      simp only [branchNodes, Bool.false_eq_true, if_false, List.append_nil] at member
      cases others with
      | nil => cases member
      | cons second others =>
          rw [List.dropLast_cons_of_ne_nil (by simp), List.map_map, ← List.map_dropLast] at member
          rcases List.mem_cons.mp member with rfl | member
          · exact ⟨_, first, List.mem_cons_self, rfl⟩
          · obtain ⟨branch, isBefore, rfl⟩ := List.mem_map.mp member
            exact ⟨_, branch, List.mem_cons_of_mem first isBefore, rfl⟩

theorem ReadBranches.tree (read : ReadBranches (first :: others) hasElse) :
    StatementTree (Stmt.decide first.1 first.2 others hasElse).node := by
  rw [Stmt.node_decide]
  have isBranch {trees : Value × List Value}
      (member : trees ∈ Stmt.branchTrees first :: others.map Stmt.branchTrees) :
      ∃ branch ∈ first :: others, trees = Stmt.branchTrees branch := by
    rw [← List.map_cons] at member
    obtain ⟨branch, isBranch, rfl⟩ := List.mem_map.mp member
    exact ⟨branch, isBranch, rfl⟩
  apply StatementTree.decide
  · intro trees member
    obtain ⟨branch, found, rfl⟩ := isBranch member
    exact read.tests branch found
  · intro trees member
    obtain ⟨branch, found, rfl⟩ := isBranch member
    simpa [Stmt.branchTrees, Stmt.nodes_eq_map] using read.each branch found
  · intro trees member
    obtain ⟨branch, found, rfl⟩ := isBranch member
    exact Stmt.choiceLast_nodes (read.last branch found)
  · intro kind test body member
    obtain ⟨_, branch, isFollowed, same⟩ := mem_branchNodes_dropLast member
    simp only [Stmt.branchNode, Value.record, List.map_cons, Value.dict.injEq, List.cons.injEq,
      Prod.mk.injEq, Value.list.injEq] at same
    rw [same.2.2.1.2]
    exact Stmt.endsClosed_nodes (read.closed branch isFollowed)

/-- A branch in front of others: if it is open at its end, then nothing follows it. -/
theorem ReadOthers.cons {middle rest : List Placed} {found : List (Expr × List Stmt) × Bool}
    (read : ReadOthers middle found rest) (test : ExpressionTree first.1.node)
    (body : ReadBody first.2 middle) : ReadBranches (first :: found.1) found.2 where
  tests := by simpa [test] using read.branches.tests
  each := by
    intro branch member
    rcases List.mem_cons.mp member with rfl | member
    · exact body.each
    · exact read.branches.each branch member
  last := by
    intro branch member
    rcases List.mem_cons.mp member with rfl | member
    · exact body.last
    · exact read.branches.last branch member
  closed := by
    intro branch member
    rcases mem_followed_cons member with ⟨rfl, some⟩ | member
    · rw [Bool.eq_false_iff]
      exact fun isOpen => some (read.absent (body.settled isOpen))
    · exact read.branches.closed branch member

end Choices

section Statements

variable (shaped : inner.Shaped)

include shaped

theorem branch_gives : Gives (branch inner) fun branch rest =>
    ExpressionTree branch.1.node ∧ ReadBody branch.2 rest := by
  refine (expression_gives shaped).bind fun test tree => ?_
  refine (Gives.keyword _).bind fun _ _ => (Gives.mark _).bind fun _ _ => ?_
  exact shaped.statements.map fun body rest read => ⟨tree, read⟩

theorem otherBranches_gives (tokens : List Placed) (found : List (Expr × List Stmt) × Bool)
    (rest : List Placed) (named : Named tokens)
    (read : otherBranches inner tokens = .ok (found, rest)) :
    Named rest ∧ ReadOthers tokens found rest := by
  have none : ReadBranches [] false ∧ ReadBranches [] true := by
    constructor <;> constructor <;> simp [followed]
  by_cases other : Ahead endsBranches tokens
  · have noElif : Ahead (· ≠ .keyword .elif) tokens :=
      other.mono fun token passes => by simp_all [endsBranches]
    have noElse : Ahead (· ≠ .keyword .elseWord) tokens :=
      other.mono fun token passes => by simp_all [endsBranches]
    rw [otherBranches, ifNext_left noElif, ifNext_left noElse] at read
    cases read
    exact ⟨named, none.1, fun _ => rfl, id, fun _ => other⟩
  · obtain ⟨⟨token, position⟩, tokens, rfl, isBranch⟩ := exists_of_not_ahead other
    have namedRest : Named tokens := fun placed member =>
      named placed (List.mem_cons_of_mem _ member)
    have isWord : token = .keyword .elif ∨ token = .keyword .elseWord := by
      by_cases isElif : token = .keyword .elif
      · exact .inl isElif
      · simpa [endsBranches, isElif] using isBranch
    rcases isWord with rfl | rfl
    · rw [otherBranches, ifNext_taken] at read
      obtain ⟨first, middle, readFirst, read⟩ := bind_eq_ok.mp read
      obtain ⟨found, _, readOthers, read⟩ := bind_eq_ok.mp read
      cases read
      obtain ⟨namedMiddle, test, body⟩ := branch_gives shaped _ _ _ namedRest readFirst
      obtain ⟨namedEnd, others⟩ := shaped.otherBranches _ _ _ namedMiddle readOthers
      exact ⟨namedEnd, others.cons test body, fun ahead => absurd ahead other,
        fun _ => others.ended body.ended, others.settled⟩
    · rw [otherBranches, ifNext_left (.cons rfl), ifNext_taken] at read
      obtain ⟨_, middle, readColon, read⟩ := bind_eq_ok.mp read
      obtain ⟨_, _, readBody, read⟩ := bind_eq_ok.mp read
      cases read
      obtain ⟨namedMiddle, -⟩ := Gives.mark .colon _ _ _ namedRest readColon
      obtain ⟨namedEnd, body⟩ := shaped.statements _ _ _ namedMiddle readBody
      exact ⟨namedEnd, none.2, fun ahead => absurd ahead other, fun _ => body.ended, by simp⟩

/-! ## Statements -/

omit shaped in
/-- A statement that is no choice says nothing about what follows it. -/
theorem ReadStatement.plain {statement : Stmt} (tree : StatementTree statement.node)
    (noChoice : statement.isDecide = false) (rest : List Placed) :
    ReadStatement statement rest where
  tree := tree
  ended := by simp [noChoice]
  settled := by cases statement <;> simp_all [Stmt.endsOpen, Stmt.isDecide]

/-- The syntax trees of the body of a loop. -/
theorem loopBody_gives : Gives (loopBody inner) fun body _ =>
    Stmt.nodes body ≠ [] ∧ BodyTree (Stmt.nodes body) := by
  refine (Gives.mark _).bind fun _ _ => ?_
  have read : Gives inner.statements fun body _ => BodyTree (Stmt.nodes body) := by
    intro tokens body rest named read
    obtain ⟨namedRest, read⟩ := shaped.statements tokens body rest named read
    refine ⟨namedRest, ?_, Stmt.choiceLast_nodes read.last⟩
    simpa [Stmt.nodes_eq_map] using read.each
  refine read.bind fun body tree => ?_
  cases body with
  | nil => exact .stuck
  | cons first rest =>
      refine (Gives.keyword _).bind fun _ _ => .pure fun _ => ⟨?_, tree⟩
      simp [Stmt.nodes]

omit shaped in
theorem enumerated_gives : Gives enumerated fun word _ => IsName word := by
  refine (Gives.mark _).bind fun _ _ => Gives.name.bind fun word isName => ?_
  exact (Gives.mark _).bind fun _ _ => .pure fun _ => isName

theorem loopAfter_gives {item : String} (isName : IsName item) {token : Token}
    (named : token.Named) : ∀ parse ∈ loopAfter inner item token, Gives parse ReadStatement := by
  intro parse known
  unfold loopAfter at known
  split at known <;> cases known
  · next word =>
      refine (loopBody_gives shaped).bind fun body ⟨filled, tree⟩ => .pure (.plain ?_ rfl)
      rw [Stmt.node]
      exact .forEach isName (.name (named word rfl)) filled tree.each tree.last
  · refine (Gives.mark _).bind fun _ _ => (expression_gives shaped).bind fun bound isBound => ?_
    refine (Gives.mark _).bind fun _ _ => ?_
    refine (loopBody_gives shaped).bind fun body ⟨filled, tree⟩ => .pure (.plain ?_ rfl)
    rw [Stmt.node]
    exact .forRange isName isBound filled tree.each tree.last
  · refine enumerated_gives.bind fun word isWord => ?_
    refine (loopBody_gives shaped).bind fun body ⟨filled, tree⟩ => .pure (.plain ?_ rfl)
    rw [Stmt.node]
    exact .forEach isName (.enumerated isWord) filled tree.each tree.last

theorem loop_gives : Gives (loop inner) ReadStatement := by
  refine Gives.name.bind fun item isItem => ?_
  apply Gives.ifNext
  · refine Gives.name.bind fun element isElement => ?_
    refine (Gives.keyword _).bind fun _ _ => (Gives.keyword _).bind fun _ _ => ?_
    refine enumerated_gives.bind fun collection isCollection => ?_
    refine (loopBody_gives shaped).bind fun body ⟨filled, tree⟩ => .pure (.plain ?_ rfl)
    rw [Stmt.node]
    exact .forEnumerated isItem isElement isCollection filled tree.each tree.last
  · refine (Gives.keyword _).bind fun _ _ => ?_
    exact .choose (fun _ named => loopAfter_gives shaped isItem named) .stuck

theorem choice_gives : Gives (do
    let (test, body) ← branch inner
    let (others, hasElse) ← otherBranches inner
    return Stmt.decide test body others hasElse) ReadStatement := by
  intro tokens statement rest named read
  obtain ⟨first, middle, readFirst, read⟩ := bind_eq_ok.mp read
  obtain ⟨found, _, readOthers, read⟩ := bind_eq_ok.mp read
  cases read
  obtain ⟨namedMiddle, test, body⟩ := branch_gives shaped _ _ _ named readFirst
  obtain ⟨namedEnd, others⟩ := otherBranches_gives shaped _ _ _ namedMiddle readOthers
  refine ⟨namedEnd, (others.cons test body).tree, fun _ => others.ended body.ended, ?_⟩
  intro isOpen
  exact others.settled (by simpa [Stmt.endsOpen] using isOpen)

theorem statementAfter_gives {token : Token} (named : token.Named) :
    ∀ parse ∈ statementAfter inner token, Gives parse ReadStatement := by
  intro parse known
  unfold statementAfter at known
  split at known <;> cases known
  · next word =>
      have isName := named word rfl
      apply Gives.ifNext
      · refine (expression_gives shaped).bind fun value tree => .pure (.plain ?_ rfl)
        rw [Stmt.node]
        exact .assign isName tree
      · refine (Gives.mark _).bind fun _ _ => ?_
        refine (arguments_gives shaped).bind fun arguments each => .pure (.plain ?_ rfl)
        rw [Stmt.node, Expr.node, Expr.itemNodes_eq_map]
        exact .call isName (by simpa using each)
  · refine (expression_gives shaped).bind fun value tree => .pure (.plain ?_ rfl)
    rw [Stmt.node]
    exact .yield tree
  · refine (Gives.mark _).bind fun _ _ => (Gives.keyword _).bind fun _ _ => ?_
    exact choice_gives shaped
  · exact loop_gives shaped

omit shaped in
/-- Where no statement starts, no list of statements goes on. -/
theorem statements_none {tokens rest : List Placed} {body : List Stmt}
    (other : Ahead (! startsStatement ·) tokens)
    (read : statements inner tokens = .ok (body, rest)) : body = [] ∧ rest = tokens := by
  cases tokens with
  | nil =>
      cases read
      exact ⟨rfl, rfl⟩
  | cons first tokens =>
      have unknown : statementAfter inner first.token = none := by
        rw [← Option.not_isSome_iff_eq_none, statementAfter_isSome]
        simpa using other.head
      rw [statements, choose_none (by rw [unknown]; rfl)] at read
      cases read
      exact ⟨rfl, rfl⟩

omit shaped in
/-- A statement in front of a list: nothing follows a choice. -/
theorem ReadStatement.cons {statement : Stmt} {body : List Stmt} {middle rest : List Placed}
    (first : ReadStatement statement middle) (read : ReadBody body rest)
    (alone : statement.isDecide = true → body = [] ∧ rest = middle) :
    ReadBody (statement :: body) rest := by
  cases body with
  | nil =>
      constructor
      · simpa using first.tree
      · simp
      · exact read.ended
      · intro isOpen
        have isChoice : statement.isDecide = true := by
          cases statement <;> simp_all [Stmt.endsOpen, Stmt.isDecide]
        rw [(alone isChoice).2]
        exact first.settled isOpen
  | cons second others =>
      have noChoice : statement.isDecide = false := by
        rw [Bool.eq_false_iff]
        intro isChoice
        cases (alone isChoice).1
      constructor
      · simpa [first.tree] using read.each
      · simpa [noChoice] using read.last
      · exact read.ended
      · exact fun isOpen => read.settled (by simpa [Stmt.endsOpen] using isOpen)

theorem statements_gives : Gives (statements inner) ReadBody := by
  intro tokens body rest named read
  by_cases other : Ahead (! startsStatement ·) tokens
  · obtain ⟨rfl, rfl⟩ := statements_none other read
    exact ⟨named, by simp, by simp, other, by simp [Stmt.endsOpen]⟩
  · obtain ⟨placed, tokens, rfl, starts⟩ := exists_of_not_ahead other
    have known : (statementAfter inner placed.token).isSome = true := by simpa using starts
    obtain ⟨parse, known⟩ := Option.isSome_iff_exists.mp known
    have namedFirst := named placed List.mem_cons_self
    have namedRest : Named tokens := fun placed member =>
      named placed (List.mem_cons_of_mem _ member)
    rw [statements, choose_some (by rw [known]; rfl)] at read
    obtain ⟨statement, middle, readFirst, read⟩ := bind_eq_ok.mp read
    obtain ⟨body, _, readBody, read⟩ := bind_eq_ok.mp read
    cases read
    obtain ⟨namedMiddle, first⟩ :=
      statementAfter_gives shaped namedFirst parse known _ _ _ namedRest readFirst
    obtain ⟨namedEnd, others⟩ := shaped.statements _ _ _ namedMiddle readBody
    refine ⟨namedEnd, first.cons others fun isChoice => ?_⟩
    exact shaped.noStatements _ _ _ (first.ended isChoice) readBody

/-! ## Tasks and programs -/

theorem titled_gives {build : String → List Stmt → Item}
    (tree : ∀ name body, BodyTree (Stmt.nodes body) → ItemTree (build name body).node) :
    Gives (titled inner build) fun item _ => ItemTree item.node := by
  refine Gives.text.bind fun title _ => (Gives.mark _).bind fun _ _ => ?_
  refine (statements_gives shaped).map fun body rest read => tree title body ?_
  refine ⟨?_, Stmt.choiceLast_nodes read.last⟩
  simpa [Stmt.nodes_eq_map] using read.each

theorem itemAfter_gives (token : Token) :
    ∀ parse ∈ itemAfter inner token, Gives parse fun item _ => ItemTree item.node := by
  intro parse known
  unfold itemAfter at known
  split at known <;> cases known
  · exact titled_gives shaped fun name body tree => .step tree
  · exact titled_gives shaped fun name body tree => .subtask tree

omit shaped in
/-- One or more elements, as long as the next token starts one. -/
theorem Gives.repeated {α : Type} {element : Parse α} {more : Parse (List α)} {property : α → Prop}
    (test : Token → Bool) (first : Gives element fun value _ => property value)
    (others : Gives more fun values _ => ∀ value ∈ values, property value) :
    Gives (Parse.repeated element test more) fun values _ =>
      values ≠ [] ∧ ∀ value ∈ values, property value := by
  refine first.bind fun value holds => (Gives.follows test).bind fun again _ => ?_
  cases again with
  | false => exact .pure fun _ => by simpa using holds
  | true => exact others.bind fun values each => .pure fun _ => by simpa [holds] using each

theorem items_gives : Gives (items inner) fun items _ =>
    items ≠ [] ∧ ∀ item ∈ items, ItemTree item.node := by
  have others : Gives inner.items fun items _ => ∀ item ∈ items, ItemTree item.node := by
    intro tokens items rest named read
    obtain ⟨namedRest, -, each⟩ := shaped.items tokens items rest named read
    exact ⟨namedRest, each⟩
  exact Gives.repeated startsItem (.choose (fun token _ => itemAfter_gives shaped token) .stuck)
    others

theorem tasks_gives : Gives (tasks inner) fun tasks _ =>
    tasks ≠ [] ∧ ∀ task ∈ tasks, TaskTree task.node := by
  refine (Gives.keyword _).bind fun _ _ => Gives.text.bind fun title _ => ?_
  refine (Gives.mark _).bind fun _ _ => (items_gives shaped).bind fun items ⟨filled, each⟩ => ?_
  have tree : TaskTree (Task.mk title items).node :=
    .task (by simpa using filled) (by simpa using each)
  refine (Gives.follows _).bind fun again _ => ?_
  cases again with
  | false => exact .pure fun _ => by simpa using tree
  | true => exact shaped.tasks.bind fun tasks each => .pure fun _ => by simpa [tree] using each.2

theorem runs_gives : Gives (runs inner) fun runs _ => runs ≠ [] := by
  refine (Gives.keyword _).bind fun _ _ => Gives.text.bind fun title _ => ?_
  refine (Gives.follows _).bind fun again _ => ?_
  cases again with
  | false => exact .pure fun _ => by simp
  | true => exact shaped.runs.bind fun runs _ => .pure fun _ => by simp

theorem program_gives : Gives (program inner) fun program _ => ProgramTree program.node := by
  refine (Gives.keyword _).bind fun _ _ => Gives.text.bind fun objective _ => ?_
  refine (tasks_gives shaped).bind fun tasks ⟨someTask, each⟩ => ?_
  refine (runs_gives shaped).bind fun runs someRun => .pure fun _ => ?_
  exact .program (by simpa using someTask) (by simpa using each) someRun

end Statements

end Parse

namespace Phrases

theorem Shaped.none : Phrases.none.Shaped where
  expression := .stuck
  sum _ _ := .stuck
  product _ _ := .stuck
  factor := .stuck
  indices _ _ := .stuck
  expressions := .stuck
  entries := .stuck
  statements := .stuck
  noStatements _ _ _ _ read := by cases read
  otherBranches _ _ _ _ read := by cases read
  items := .stuck
  tasks := .stuck
  runs := .stuck

theorem Shaped.around {inner : Phrases} (shaped : inner.Shaped) : inner.around.Shaped where
  expression := Parse.expression_gives shaped
  sum _ tree := Parse.sum_gives shaped tree
  product _ tree := Parse.product_gives shaped tree
  factor := Parse.factor_gives shaped
  indices _ tree := Parse.indices_gives shaped tree
  expressions := Parse.expressions_gives shaped
  entries := Parse.entries_gives shaped
  statements := Parse.statements_gives shaped
  noStatements _ _ _ other read := Parse.statements_none other read
  otherBranches := Parse.otherBranches_gives shaped
  items := Parse.items_gives shaped
  tasks := Parse.tasks_gives shaped
  runs := Parse.runs_gives shaped

theorem upTo_shaped (depth : Nat) : (upTo depth).Shaped := by
  induction depth with
  | zero => exact .none
  | succ depth ih => exact ih.around

end Phrases

/-! ## Program texts -/

/-- A name that was cut off a text is written like one. -/
theorem Token.Cut.named {token : Token} (cut : token.Cut) : token.Named := by
  rintro word rfl
  obtain ⟨chars, read, made⟩ := cut.name_word
  exact ⟨Shape.word?_word? read, made⟩

theorem lex_named (source : String) : Named (lex source).tokens :=
  fun placed member => (lex_cut source placed member).named

/-- Tokens with proper names are only parsed to programs with proper trees. -/
theorem ProgramTree.of_parseTokens {tokens : List Placed} {program : Program}
    (named : Named tokens) (parsed : parseTokens tokens = .ok program) :
    ProgramTree program.node := by
  have gives := Parse.program_gives (Phrases.upTo_shaped tokens.length)
  exact (gives _ program [] named (program_of_parseTokens parsed)).2

/-- The syntax tree of a program that is read from a text has the shape that it has to have. -/
theorem Program.programTree_of_read (source : String) (program : Program)
    (read : (Program.read source).outcome = .ok program) : ProgramTree program.node :=
  .of_parseTokens (lex_named source) (Program.parsed_of_read read).1

/-- A text in which a branch ends with a choice that has an `else`, an alternative follows it, and the
statement behind the alternatives ends up in the last branch. -/
theorem Program.programTree_of_read_sample :
    let source := "objective \"o\" task \"t\": step \"s\": for i, x in enumerate(xs): " ++
      "decide: if x > 1 then: decide: if i then: y = 'a' else: z = 1 " ++
      "elif x == \"b\" then: for k in range(3): return k end print(y, \"c\") end run \"t\""
    ∃ program, (Program.read source).outcome = .ok program ∧ ProgramTree program.node := by
  intro source
  have isRead : (Program.read source).outcome.toBool = true := by decide +kernel
  cases read : (Program.read source).outcome with
  | error stop =>
      rw [read] at isRead
      cases isRead
  | ok program => exact ⟨program, rfl, Program.programTree_of_read source program read⟩

end Stepwise
