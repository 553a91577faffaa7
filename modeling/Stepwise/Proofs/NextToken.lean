import Stepwise.Proofs.Phrases

/-!
# Parsing by the next token

Every choice of a parser depends on the next token alone.  This module says what the parsers of
`Phrases.whole` do in front of a token that they take, and in front of one that they leave.  What may
follow is given by a test on the next token, `Ahead`, that also passes where no token is left.

Parsers that share a form are written through it: what stands between brackets (`enclosed`), behind
commas (`separated`) and behind a word of its own (`repeated`).
-/

namespace Stepwise

open Phrases (whole)

/-- The next token passes a test, if there is one. -/
def Ahead (test : Token → Bool) (tokens : List Placed) : Prop :=
  ∀ first ∈ tokens.head?, test first.token = true

theorem Ahead.nil {test : Token → Bool} : Ahead test [] :=
  nofun

theorem Ahead.cons {test : Token → Bool} {first : Placed} {rest : List Placed}
    (passes : test first.token = true) : Ahead test (first :: rest) := by
  rintro _ ⟨⟩
  exact passes

theorem Ahead.head {test : Token → Bool} {first : Placed} {rest : List Placed}
    (ahead : Ahead test (first :: rest)) : test first.token = true :=
  ahead first rfl

theorem Ahead.mono {test weaker : Token → Bool} {tokens : List Placed} (ahead : Ahead test tokens)
    (implied : ∀ token, test token = true → weaker token = true) : Ahead weaker tokens :=
  fun first member => implied _ (ahead first member)

/-- A test that the next token does not pass is failed by a token. -/
theorem exists_of_not_ahead {test : Token → Bool} {tokens : List Placed}
    (fails : ¬ Ahead test tokens) :
    ∃ first others, tokens = first :: others ∧ test first.token = false := by
  cases tokens with
  | nil => exact absurd Ahead.nil fails
  | cons first others =>
      exact ⟨first, others, rfl, Bool.eq_false_iff.mpr fun passes => fails (.cons passes)⟩

namespace Parse

variable {α β : Type}

/-! ## Taking a token -/

theorem ifNext_taken {token : Token} (present absent : Parse α) (position : Nat)
    (rest : List Placed) :
    ifNext token present absent (⟨token, position⟩ :: rest) = present rest :=
  choose_some (if_pos rfl) absent rest

theorem ifNext_left {token : Token} {present absent : Parse α} {tokens : List Placed}
    (other : Ahead (· ≠ token) tokens) :
    ifNext token present absent tokens = absent tokens := by
  cases tokens with
  | nil => rfl
  | cons first rest => exact choose_none (if_neg (by simpa using other.head)) absent rest

theorem take_taken {read : Token → Option α} {first : Placed} {value : α}
    (known : read first.token = some value) (next : α → Parse β) (rest : List Placed) :
    (take read >>= next) (first :: rest) = next value rest := by
  rw [bind_apply, take, choose_cons, known]
  rfl

theorem keyword_taken {reserved : Keyword} (next : Unit → Parse α) (position : Nat)
    (rest : List Placed) :
    (keyword reserved >>= next) (⟨.keyword reserved, position⟩ :: rest) = next () rest :=
  take_taken (if_pos rfl) next rest

theorem mark_taken {sign : Mark} (next : Unit → Parse α) (position : Nat) (rest : List Placed) :
    (mark sign >>= next) (⟨.mark sign, position⟩ :: rest) = next () rest :=
  take_taken (if_pos rfl) next rest

theorem name_taken (word : String) (next : String → Parse α) (position : Nat)
    (rest : List Placed) :
    (name >>= next) (⟨.name word, position⟩ :: rest) = next word rest := rfl

theorem text_taken (content : String) (next : String → Parse α) (position : Nat)
    (rest : List Placed) :
    (text >>= next) (⟨.text content, position⟩ :: rest) = next content rest := rfl

theorem follows_apply {test : Token → Bool} (next : Bool → Parse α) (first : Placed)
    (rest : List Placed) :
    (follows test >>= next) (first :: rest) = next (test first.token) (first :: rest) := rfl

theorem follows_left {test : Token → Bool} (next : Bool → Parse α) {tokens : List Placed}
    (other : Ahead (! test ·) tokens) :
    (follows test >>= next) tokens = next false tokens := by
  cases tokens with
  | nil => rfl
  | cons first rest =>
      have fails : test first.token = false := by simpa using other.head
      rw [follows_apply, fails]

theorem afterOperator_taken {kind : Token → Option Operator} {first : Placed}
    {operator : Operator} (known : kind first.token = some operator) (left : Expr)
    (go : Operator → Parse Expr) (rest : List Placed) :
    afterOperator kind left go (first :: rest) = go operator rest :=
  choose_some (by rw [known]; rfl) _ rest

theorem afterOperator_left {kind : Token → Option Operator} {tokens : List Placed}
    (other : Ahead (fun token => (kind token).isNone) tokens) (left : Expr)
    (go : Operator → Parse Expr) :
    afterOperator kind left go tokens = .ok (left, tokens) := by
  cases tokens with
  | nil => rfl
  | cons first rest =>
      have unknown : kind first.token = none := by simpa using other.head
      exact choose_none (by rw [unknown]; rfl) _ rest

/-! ## Expressions -/

/-- A token that no operator is. -/
def endsOperands (token : Token) : Bool :=
  !isOperator token

/-- A token that ends an expression: it neither continues it nor calls what it ends with. -/
def endsExpression (token : Token) : Bool :=
  !isOperator token && token != .mark .openBracket && token != .mark .openParen

end Parse

namespace Ahead

open Parse

variable {tokens : List Placed}

theorem noMultiplying (ahead : Ahead endsOperands tokens) :
    Ahead (fun token => (multiplyingOperator? token).isNone) tokens :=
  ahead.mono fun token passes => by simp_all [endsOperands, isOperator]

theorem noAdding (ahead : Ahead endsOperands tokens) :
    Ahead (fun token => (addingOperator? token).isNone) tokens :=
  ahead.mono fun token passes => by simp_all [endsOperands, isOperator]

theorem noComparing (ahead : Ahead endsOperands tokens) :
    Ahead (fun token => (comparingOperator? token).isNone) tokens :=
  ahead.mono fun token passes => by simp_all [endsOperands, isOperator]

theorem noOperator (ahead : Ahead endsExpression tokens) : Ahead endsOperands tokens :=
  ahead.mono fun token passes => by simp_all [endsExpression, endsOperands]

theorem noBracket (ahead : Ahead endsExpression tokens) :
    Ahead (· ≠ .mark .openBracket) tokens :=
  ahead.mono fun token passes => by simp_all [endsExpression]

theorem noParen (ahead : Ahead endsExpression tokens) :
    Ahead (· ≠ .mark .openParen) tokens :=
  ahead.mono fun token passes => by simp_all [endsExpression]

end Ahead

namespace Parse

variable {tokens rest : List Placed} {first : Placed} {operator : Operator}

theorem indices_taken (container : Expr) (position : Nat) (rest : List Placed) :
    indices whole container (⟨.mark .openBracket, position⟩ :: rest) =
      (do
        let key ← expression whole
        mark .closeBracket
        indices whole (.index container key)) rest := by
  rw [indices, ifNext_taken, Phrases.whole_expression, Phrases.whole_indices]

theorem indices_left (container : Expr) (other : Ahead (· ≠ .mark .openBracket) tokens) :
    indices whole container tokens = .ok (container, tokens) :=
  ifNext_left other

theorem product_taken (known : multiplyingOperator? first.token = some operator) (left : Expr) :
    product whole left (first :: rest) =
      (do product whole (.binary operator left (← factor whole))) rest := by
  rw [product, afterOperator_taken known, Phrases.whole_product]

theorem product_left (left : Expr)
    (other : Ahead (fun token => (multiplyingOperator? token).isNone) tokens) :
    product whole left tokens = .ok (left, tokens) :=
  afterOperator_left other left _

theorem sum_taken (known : addingOperator? first.token = some operator) (left : Expr) :
    sum whole left (first :: rest) =
      (do sum whole (.binary operator left (← product whole (← factor whole)))) rest := by
  rw [sum, afterOperator_taken known, Phrases.whole_sum]

theorem sum_left (left : Expr)
    (other : Ahead (fun token => (addingOperator? token).isNone) tokens) :
    sum whole left tokens = .ok (left, tokens) :=
  afterOperator_left other left _

theorem comparison_taken (known : comparingOperator? first.token = some operator) (left : Expr) :
    comparison whole left (first :: rest) =
      (do
        let right ← sum whole (← product whole (← factor whole))
        return Expr.binary operator left right) rest :=
  afterOperator_taken known left _ rest

theorem comparison_left (left : Expr)
    (other : Ahead (fun token => (comparingOperator? token).isNone) tokens) :
    comparison whole left tokens = .ok (left, tokens) :=
  afterOperator_left other left _

theorem operation_left (left : Expr) (ahead : Ahead endsOperands tokens) :
    operation whole left tokens = .ok (left, tokens) := by
  rw [operation, bind_of_ok (product_left left ahead.noMultiplying),
    bind_of_ok (sum_left left ahead.noAdding), comparison_left left ahead.noComparing]

theorem factor_negated (position : Nat) (rest : List Placed) :
    factor whole (⟨.mark .minus, position⟩ :: rest) =
      (do return Expr.negate (← factor whole)) rest := by
  have taken : factor whole (⟨.mark .minus, position⟩ :: rest) =
      (do return Expr.negate (← whole.factor)) rest := ifNext_taken ..
  rw [taken, Phrases.whole_factor]

/-- Only a minus in front is no start of a primary expression. -/
theorem factor_taken {parse : Parse Expr} (known : primaryAfter whole first.token = some parse)
    (rest : List Placed) :
    factor whole (first :: rest) = (parse >>= indices whole) rest := by
  have other : Ahead (· ≠ .mark .minus) (first :: rest) := by
    apply Ahead.cons
    rw [decide_eq_true_eq]
    intro same
    rw [same] at known
    cases known
  rw [factor, ifNext_left other, bind_apply, primary, choose_some known, bind_apply]

theorem factor_literal {value : Expr}
    (known : primaryAfter whole first.token = some (pure value)) (rest : List Placed) :
    factor whole (first :: rest) = indices whole value rest := by
  rw [factor_taken known, pure_bind]

theorem factor_name (word : String) (position : Nat)
    (ahead : Ahead (· ≠ .mark .openParen) rest) :
    factor whole (⟨.name word, position⟩ :: rest) = indices whole (.name word) rest := by
  rw [factor_taken rfl, bind_apply, ifNext_left ahead, pure_apply]

theorem expression_group (position : Nat) (rest : List Placed) :
    expression whole (⟨.mark .openParen, position⟩ :: rest) =
      (do
        let group ← expression whole
        mark .closeParen
        afterGroup whole group) rest := by
  have taken : expression whole (⟨.mark .openParen, position⟩ :: rest) =
      (do
        let group ← whole.expression
        mark .closeParen
        afterGroup whole group) rest := ifNext_taken ..
  rw [taken, Phrases.whole_expression]

theorem expression_plain (other : Ahead (· ≠ .mark .openParen) tokens) :
    expression whole tokens = (factor whole >>= operation whole) tokens :=
  ifNext_left other

theorem afterGroup_operator (group : Expr) (known : isOperator first.token = true)
    (rest : List Placed) :
    afterGroup whole group (first :: rest) = operation whole group (first :: rest) := by
  rw [afterGroup, follows_apply, known, if_pos rfl]

theorem afterGroup_indices (group : Expr) (ahead : Ahead endsOperands tokens) :
    afterGroup whole group tokens = indices whole group tokens := by
  rw [afterGroup, follows_left _ ahead, if_neg Bool.false_ne_true]

/-- A token that an operand starts with. -/
def startsOperand : Token → Bool
  | .name _ | .truth _ | .int _ | .float _ | .text _ => true
  | .mark .openBracket | .mark .openBrace | .mark .openParen | .mark .minus => true
  | _ => false

/-- An operator is none of the other tokens. -/
theorem ne_of_isOperator {token other : Token} (known : isOperator token = true)
    (unlike : isOperator other = false) : token ≠ other := by
  rintro rfl
  rw [known] at unlike
  cases unlike

theorem isOperator_of_multiplying (known : multiplyingOperator? first.token = some operator) :
    isOperator first.token = true := by
  simp [isOperator, known]

theorem isOperator_of_adding (known : addingOperator? first.token = some operator) :
    isOperator first.token = true := by
  simp [isOperator, known]

theorem isOperator_of_comparing (known : comparingOperator? first.token = some operator) :
    isOperator first.token = true := by
  simp [isOperator, known]

/-- An operator ends what could be indexed. -/
theorem indices_before_operator (known : isOperator first.token = true) (last : Expr)
    (rest : List Placed) :
    indices whole last (first :: rest) = .ok (last, first :: rest) :=
  indices_left last (.cons (by simpa using ne_of_isOperator known rfl))

/-- The parser of terms. -/
def term : Parse Expr := factor whole >>= product whole

/-- The parser of sums. -/
def arithmetic : Parse Expr := term >>= sum whole

theorem operation_eq_arithmetic :
    factor whole >>= operation whole = arithmetic >>= comparison whole := by
  have opened : operation whole = fun left =>
      product whole left >>= sum whole >>= comparison whole := by
    funext left
    rw [operation, bind_assoc]
  simp only [opened, arithmetic, term, bind_assoc]

/-- The parser of a group, as the first operand of an expression and as any operand. -/
theorem group_apply (position : Nat) (rest : List Placed) :
    factor whole (⟨.mark .openParen, position⟩ :: rest) =
      (do
        let group ← expression whole
        mark .closeParen
        indices whole group) rest := by
  have known : primaryAfter whole (.mark .openParen) = some (do
      let group ← expression whole
      mark .closeParen
      return group) := by
    rw [primaryAfter, Phrases.whole_expression]
  rw [factor_taken known]
  simp only [bind_assoc, pure_bind]

/-- A token that ends an item of a list. -/
def endsItem (token : Token) : Bool :=
  endsExpression token && token != .mark .comma

/-- Reads up to a closing mark, which may follow at once. -/
def enclosed {α γ : Type} (sign : Mark) (empty : γ) (inner : Parse α) (build : α → γ) : Parse γ :=
  ifNext (.mark sign) (pure empty) do
    let found ← inner
    mark sign
    return build found

theorem list_known : primaryAfter whole (.mark .openBracket) =
    some (enclosed .closeBracket (.list []) (expressions whole) .list) := by
  rw [primaryAfter, Phrases.whole_expressions, enclosed]

theorem dict_known : primaryAfter whole (.mark .openBrace) =
    some (enclosed .closeBrace (.dict []) (entries whole) .dict) := by
  rw [primaryAfter, Phrases.whole_entries, enclosed]

theorem arguments_whole :
    arguments whole = enclosed .closeParen [] (expressions whole) id := by
  rw [arguments, Phrases.whole_expressions, enclosed]
  rfl

/-- One or more elements with commas between them. -/
def separated {α : Type} (element : Parse α) (more : Parse (List α)) : Parse (List α) := do
  let first ← element
  ifNext (.mark .comma) (do return first :: (← more)) (pure [first])

theorem expressions_whole :
    expressions whole = separated (expression whole) (expressions whole) := by
  have opened : expressions whole = separated (expression whole) whole.expressions := rfl
  rwa [Phrases.whole_expressions] at opened

/-- An entry of a dictionary. -/
def entry : Parse (Expr × Expr) := do
  let key ← expression whole
  mark .colon
  let value ← expression whole
  return (key, value)

theorem entries_whole : entries whole = separated entry (entries whole) := by
  have opened : entries whole = separated entry whole.entries := by
    simp only [entries, separated, entry, bind_assoc, pure_bind]
  rwa [Phrases.whole_entries] at opened

/-! ## Statements -/

/-- A token that a statement starts with. -/
def startsStatement : Token → Bool
  | .name _ | .keyword .returnWord | .keyword .decide | .keyword .forWord => true
  | _ => false

theorem endsExpression_of_startsStatement {token : Token} (starts : startsStatement token = true) :
    endsExpression token = true := by
  cases token with
  | mark sign => cases starts
  | _ => rfl

@[simp] theorem statementAfter_isSome (inner : Phrases) (token : Token) :
    (statementAfter inner token).isSome = startsStatement token := by
  cases token with
  | keyword reserved => cases reserved <;> rfl
  | _ => rfl

theorem statements_taken {statement : Parse Stmt}
    (known : statementAfter whole first.token = some statement) (rest : List Placed) :
    statements whole (first :: rest) =
      (do
        let found ← statement
        return found :: (← statements whole)) rest := by
  have taken : statements whole (first :: rest) =
      (do
        let found ← statement
        return found :: (← whole.statements)) rest :=
    choose_some (by rw [known]; rfl) _ rest
  rw [taken, Phrases.whole_statements]

theorem statements_left (other : Ahead (! startsStatement ·) tokens) :
    statements whole tokens = .ok ([], tokens) := by
  cases tokens with
  | nil => rfl
  | cons first rest =>
      have unknown : statementAfter whole first.token = none := by
        rw [← Option.not_isSome_iff_eq_none, statementAfter_isSome]
        simpa using other.head
      exact choose_none (by rw [unknown]; rfl) _ rest

/-- A list of statements ends at once, or a statement comes first and a list follows it. -/
theorem statements_eq_ok {found : List Stmt}
    (read : statements whole tokens = .ok (found, rest)) :
    (Ahead (! startsStatement ·) tokens ∧ found = [] ∧ rest = tokens) ∨
      ∃ first more middle, found = first :: more ∧
        statements whole middle = .ok (more, rest) := by
  by_cases other : Ahead (! startsStatement ·) tokens
  · rw [statements_left other] at read
    cases read
    exact .inl ⟨other, rfl, rfl⟩
  · obtain ⟨first, others, rfl, starts⟩ := exists_of_not_ahead other
    have known : (statementAfter whole first.token).isSome = true := by simpa using starts
    obtain ⟨statement, known⟩ := Option.isSome_iff_exists.mp known
    rw [statements_taken known] at read
    obtain ⟨_, middle, _, read⟩ := bind_eq_ok.mp read
    obtain ⟨more, _, readMore, read⟩ := bind_eq_ok.mp read
    cases read
    exact .inr ⟨_, more, middle, rfl, readMore⟩

theorem otherBranches_elif (position : Nat) (rest : List Placed) :
    otherBranches whole (⟨.keyword .elif, position⟩ :: rest) =
      (do
        let first ← branch whole
        let (others, hasElse) ← otherBranches whole
        return (first :: others, hasElse)) rest := by
  have taken : otherBranches whole (⟨.keyword .elif, position⟩ :: rest) =
      (do
        let first ← branch whole
        let (others, hasElse) ← whole.otherBranches
        return (first :: others, hasElse)) rest := ifNext_taken ..
  rw [taken, Phrases.whole_otherBranches]

theorem otherBranches_else (position : Nat) (rest : List Placed) :
    otherBranches whole (⟨.keyword .elseWord, position⟩ :: rest) =
      (do
        mark .colon
        let _ ← statements whole
        return ([], true)) rest := by
  rw [otherBranches, ifNext_left (.cons rfl), ifNext_taken, Phrases.whole_statements]

/-- A token that starts no further branch. -/
def endsBranches (token : Token) : Bool :=
  token != .keyword .elif && token != .keyword .elseWord

theorem otherBranches_left (other : Ahead endsBranches tokens) :
    otherBranches whole tokens = .ok (([], false), tokens) := by
  have noElif : Ahead (· ≠ .keyword .elif) tokens :=
    other.mono fun token passes => by simp_all [endsBranches]
  have noElse : Ahead (· ≠ .keyword .elseWord) tokens :=
    other.mono fun token passes => by simp_all [endsBranches]
  rw [otherBranches, ifNext_left noElif, ifNext_left noElse, pure_apply]

/-- A token at which no list of statements and no choice goes on. -/
def endsStatements (token : Token) : Bool :=
  !startsStatement token && endsBranches token

theorem branch_whole : branch whole = (do
    let test ← expression whole
    keyword .thenWord
    mark .colon
    return (test, ← statements whole)) := by
  rw [branch, Phrases.whole_statements]

/-- Closes the body of a loop. -/
def closeBody : List Stmt → Parse (List Stmt)
  | [] => stuck
  | first :: more => do
    keyword .endWord
    return first :: more

theorem loopBody_whole (colon : Nat) (rest : List Placed) :
    loopBody whole (⟨.mark .colon, colon⟩ :: rest) = (statements whole >>= closeBody) rest := by
  rw [loopBody, mark_taken, Phrases.whole_statements]
  congr 1

theorem enumerated_taken {γ : Type} (word : String) (next : String → Parse γ)
    (opened position closed : Nat) (rest : List Placed) :
    (enumerated >>= next) (⟨.mark .openParen, opened⟩ :: ⟨.name word, position⟩ ::
      ⟨.mark .closeParen, closed⟩ :: rest) = next word rest := by
  rw [enumerated, bind_assoc, mark_taken, bind_assoc, name_taken, bind_assoc, mark_taken, pure_bind]

/-! ## Tasks -/

/-- One or more elements, each of which starts with a token that passes the test. -/
def repeated {α : Type} (element : Parse α) (test : Token → Bool) (more : Parse (List α)) :
    Parse (List α) := do
  let first ← element
  if ← follows test then return first :: (← more) else return [first]

/-- A token at which the body of a step or subtask ends. -/
def endsBody (token : Token) : Bool :=
  endsExpression token && endsStatements token

theorem items_whole :
    items whole = repeated (choose (itemAfter whole) stuck) startsItem (items whole) := by
  have opened : items whole =
      repeated (choose (itemAfter whole) stuck) startsItem whole.items := rfl
  rwa [Phrases.whole_items] at opened

/-- A task. -/
def task : Parse Task := do
  keyword .task
  let title ← text
  mark .colon
  return ⟨title, ← items whole⟩

theorem tasks_whole : tasks whole = repeated task (· = .keyword .task) (tasks whole) := by
  have opened : tasks whole = repeated task (· = .keyword .task) whole.tasks := by
    simp only [tasks, repeated, task, bind_assoc, pure_bind]
  rwa [Phrases.whole_tasks] at opened

/-- The name of a task to run. -/
def runTitle : Parse String := do
  keyword .run
  text

theorem runs_whole : runs whole = repeated runTitle (· = .keyword .run) (runs whole) := by
  have opened : runs whole = repeated runTitle (· = .keyword .run) whole.runs := by
    simp only [runs, repeated, runTitle, bind_assoc]
  rwa [Phrases.whole_runs] at opened

end Parse

end Stepwise
