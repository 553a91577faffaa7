import Stepwise.Program.Basic
import Stepwise.Token.Basic

/-!
# Parsing

A parser takes tokens off the front of a list. It either gives a result and the tokens that are left,
or it is stuck, and then gives the tokens from the first one on that cannot follow what was read.

Lists of statements take all the statements that follow, so a choice is the last statement of its list
and an alternative belongs to the innermost choice that is open. A parenthesis at the start of an
expression that is not followed by an operator closes the expression: only indices may follow.

Phrases may contain phrases of their own kind. The parser of a phrase is therefore written over the
parsers of the phrases within it, `inner`, which are called only after a token was taken, and
`Phrases.upTo` closes the circle for phrases that are nested to a given depth.
-/

namespace Stepwise

/-- A parser of an `α`. -/
abbrev Parse (α : Type) := StateT (List Placed) (Except (List Placed)) α

/-- The parsers of the phrases that may be found within others. -/
@[ext] structure Phrases where
  expression : Parse Expr
  /-- Goes on with the terms that are added to what was read. -/
  sum : Expr → Parse Expr
  /-- Goes on with the factors that are multiplied with what was read. -/
  product : Expr → Parse Expr
  factor : Parse Expr
  /-- Goes on with the indices that follow. -/
  indices : Expr → Parse Expr
  expressions : Parse (List Expr)
  entries : Parse (List (Expr × Expr))
  statements : Parse (List Stmt)
  otherBranches : Parse (List (Expr × List Stmt) × Bool)
  items : Parse (List Item)
  tasks : Parse (List Task)
  runs : Parse (List String)

namespace Parse

/-- Stuck at the next token. -/
def stuck {α : Type} : Parse α :=
  fun tokens => .error tokens

/-- Goes on by the next token: where `next` knows how, the token is taken; otherwise it is left and
`other` goes on. -/
def choose {α : Type} (next : Token → Option (Parse α)) (other : Parse α) : Parse α :=
  fun tokens =>
    match tokens with
    | [] => other []
    | first :: rest =>
      match next first.token with
      | some parse => parse rest
      | none => other (first :: rest)

/-- Takes the next token, which has to be one that `read` makes something of. -/
def take {α : Type} (read : Token → Option α) : Parse α :=
  choose (fun token => (read token).map pure) stuck

/-- Goes on with `present` after the given token, if it is the next one, and else with `absent`. -/
def ifNext {α : Type} (token : Token) (present absent : Parse α) : Parse α :=
  choose (fun next => if next = token then some present else none) absent

/-- Whether the next token passes a test; it is left where it is. -/
def follows (test : Token → Bool) : Parse Bool :=
  fun tokens =>
    match tokens with
    | [] => .ok (false, [])
    | first :: rest => .ok (test first.token, first :: rest)

/-- Takes a reserved word. -/
def keyword (reserved : Keyword) : Parse Unit :=
  take fun token => if token = .keyword reserved then some () else none

/-- Takes a mark. -/
def mark (sign : Mark) : Parse Unit :=
  take fun token => if token = .mark sign then some () else none

/-- Takes a name. -/
def name : Parse String :=
  take fun token =>
    match token with
    | .name word => some word
    | _ => none

/-- Takes a quoted text. -/
def text : Parse String :=
  take fun token =>
    match token with
    | .text content => some content
    | _ => none

/-- The operator that adds, if the token is one. -/
def addingOperator? : Token → Option Operator
  | .mark .plus => some .plus
  | .mark .minus => some .minus
  | _ => none

/-- The operator that multiplies, if the token is one. -/
def multiplyingOperator? : Token → Option Operator
  | .mark .times => some .times
  | .mark .divide => some .divide
  | _ => none

/-- The operator that compares, if the token is one. -/
def comparingOperator? : Token → Option Operator
  | .mark .greater => some .greater
  | .mark .less => some .less
  | .mark .equal => some .equal
  | .mark .greaterEqual => some .greaterEqual
  | .mark .lessEqual => some .lessEqual
  | .mark .notEqual => some .notEqual
  | _ => none

/-- Whether a token is an operator between operands. -/
def isOperator (token : Token) : Bool :=
  (addingOperator? token).isSome || (multiplyingOperator? token).isSome ||
    (comparingOperator? token).isSome

/-- Goes on after an operator of one kind, if one follows; otherwise the left operand is all. -/
def afterOperator (kind : Token → Option Operator) (left : Expr) (go : Operator → Parse Expr) :
    Parse Expr :=
  choose (fun token => (kind token).map go) (pure left)

/-- Goes on with the indices that follow. -/
def indices (inner : Phrases) (container : Expr) : Parse Expr :=
  ifNext (.mark .openBracket)
    (do
      let key ← inner.expression
      mark .closeBracket
      inner.indices (.index container key))
    (pure container)

/-- The arguments of a call, after its parenthesis. -/
def arguments (inner : Phrases) : Parse (List Expr) :=
  ifNext (.mark .closeParen) (pure []) do
    let found ← inner.expressions
    mark .closeParen
    return found

/-- How an expression that needs no parentheses around it goes on after its first token. -/
def primaryAfter (inner : Phrases) : Token → Option (Parse Expr)
  | .name word =>
    some (ifNext (.mark .openParen) (do return .call word (← arguments inner)) (pure (.name word)))
  | .truth holds => some (pure (.name (Token.truthWord holds)))
  | .int n => some (pure (.int n))
  | .float x => some (pure (.float x))
  | .text content => some (pure (.text content))
  | .mark .openBracket =>
    some <| ifNext (.mark .closeBracket) (pure (.list [])) do
      let items ← inner.expressions
      mark .closeBracket
      return .list items
  | .mark .openBrace =>
    some <| ifNext (.mark .closeBrace) (pure (.dict [])) do
      let found ← inner.entries
      mark .closeBrace
      return .dict found
  | .mark .openParen =>
    some do
      let group ← inner.expression
      mark .closeParen
      return group
  | _ => none

/-- An expression that needs no parentheses around it. -/
def primary (inner : Phrases) : Parse Expr :=
  choose (primaryAfter inner) stuck

/-- A primary expression with any number of minuses in front. -/
def factor (inner : Phrases) : Parse Expr :=
  ifNext (.mark .minus) (do return .negate (← inner.factor)) do
    indices inner (← primary inner)

/-- Goes on with the factors that are multiplied with what was read. -/
def product (inner : Phrases) (left : Expr) : Parse Expr :=
  afterOperator multiplyingOperator? left fun operator => do
    let right ← factor inner
    inner.product (.binary operator left right)

/-- Goes on with the terms that are added to what was read. -/
def sum (inner : Phrases) (left : Expr) : Parse Expr :=
  afterOperator addingOperator? left fun operator => do
    let right ← product inner (← factor inner)
    inner.sum (.binary operator left right)

/-- Goes on with a comparison, if one follows. -/
def comparison (inner : Phrases) (left : Expr) : Parse Expr :=
  afterOperator comparingOperator? left fun operator => do
    let right ← sum inner (← product inner (← factor inner))
    return .binary operator left right

/-- Goes on after a first operand with the operators that follow and their operands. -/
def operation (inner : Phrases) (left : Expr) : Parse Expr := do
  comparison inner (← sum inner (← product inner left))

/-- Goes on after a group in parentheses that opens an expression. -/
def afterGroup (inner : Phrases) (group : Expr) : Parse Expr := do
  if ← follows isOperator then operation inner group else indices inner group

/-- An expression. -/
def expression (inner : Phrases) : Parse Expr :=
  ifNext (.mark .openParen)
    (do
      let group ← inner.expression
      mark .closeParen
      afterGroup inner group)
    (do operation inner (← factor inner))

/-- One or more expressions with commas between them. -/
def expressions (inner : Phrases) : Parse (List Expr) := do
  let first ← expression inner
  ifNext (.mark .comma) (do return first :: (← inner.expressions)) (pure [first])

/-- One or more entries of a dictionary with commas between them. -/
def entries (inner : Phrases) : Parse (List (Expr × Expr)) := do
  let key ← expression inner
  mark .colon
  let value ← expression inner
  ifNext (.mark .comma) (do return (key, value) :: (← inner.entries)) (pure [(key, value)])

/-- The test and the body of a branch, after its first word. -/
def branch (inner : Phrases) : Parse (Expr × List Stmt) := do
  let test ← expression inner
  keyword .thenWord
  mark .colon
  return (test, ← inner.statements)

/-- The further branches with a test, and whether one without follows. The statements of the latter
are checked and left out. -/
def otherBranches (inner : Phrases) : Parse (List (Expr × List Stmt) × Bool) :=
  ifNext (.keyword .elif)
    (do
      let first ← branch inner
      let (others, hasElse) ← inner.otherBranches
      return (first :: others, hasElse))
    (ifNext (.keyword .elseWord)
      (do
        mark .colon
        let _ ← inner.statements
        return ([], true))
      (pure ([], false)))

/-- The body of a loop with its colon and its closing word; it has one statement at least. -/
def loopBody (inner : Phrases) : Parse (List Stmt) := do
  mark .colon
  match ← inner.statements with
  | [] => stuck
  | first :: rest =>
    keyword .endWord
    return first :: rest

/-- The name that an enumeration runs through, after its first word. -/
def enumerated : Parse String := do
  mark .openParen
  let collection ← name
  mark .closeParen
  return collection

/-- How a loop with one variable goes on after the first token of what it runs through. -/
def loopAfter (inner : Phrases) (item : String) : Token → Option (Parse Stmt)
  | .name word => some do return .forEach item (.name word) (← loopBody inner)
  | .keyword .range =>
    some do
      mark .openParen
      let bound ← expression inner
      mark .closeParen
      return .forRange item bound (← loopBody inner)
  | .keyword .enumerate =>
    some do
      let collection ← enumerated
      return .forEach item (.enumerated collection) (← loopBody inner)
  | _ => none

/-- A loop, after its first word. -/
def loop (inner : Phrases) : Parse Stmt := do
  let item ← name
  ifNext (.mark .comma)
    (do
      let element ← name
      keyword .inWord
      keyword .enumerate
      let collection ← enumerated
      return .forEnumerated item element collection (← loopBody inner))
    (do
      keyword .inWord
      choose (loopAfter inner item) stuck)

/-- How a statement goes on after its first token. -/
def statementAfter (inner : Phrases) : Token → Option (Parse Stmt)
  | .name word =>
    some <| ifNext (.mark .equals) (do return .assign word (← expression inner)) do
      mark .openParen
      return .call word (← arguments inner)
  | .keyword .returnWord => some do return .yield (← expression inner)
  | .keyword .decide =>
    some do
      mark .colon
      keyword .ifWord
      let (test, body) ← branch inner
      let (others, hasElse) ← otherBranches inner
      return .decide test body others hasElse
  | .keyword .forWord => some (loop inner)
  | _ => none

/-- All the statements that follow. -/
def statements (inner : Phrases) : Parse (List Stmt) :=
  choose
    (fun token => (statementAfter inner token).map fun statement => do
      let first ← statement
      return first :: (← inner.statements))
    (pure [])

/-- A step or subtask after its first word; `build` makes it of its name and its body. -/
def titled (inner : Phrases) (build : String → List Stmt → Item) : Parse Item := do
  let title ← text
  mark .colon
  return build title (← statements inner)

/-- How a part of a task goes on after its first token. -/
def itemAfter (inner : Phrases) : Token → Option (Parse Item)
  | .keyword .step => some (titled inner .step)
  | .keyword .subtask => some (titled inner .subtask)
  | _ => none

/-- Whether a part of a task starts with a token. -/
def startsItem (token : Token) : Bool :=
  token = .keyword .step || token = .keyword .subtask

/-- The steps and subtasks of a task, one at least. -/
def items (inner : Phrases) : Parse (List Item) := do
  let first ← choose (itemAfter inner) stuck
  if ← follows startsItem then return first :: (← inner.items) else return [first]

/-- The tasks of a program, one at least. -/
def tasks (inner : Phrases) : Parse (List Task) := do
  keyword .task
  let title ← text
  mark .colon
  let task : Task := ⟨title, ← items inner⟩
  if ← follows (· = .keyword .task) then return task :: (← inner.tasks) else return [task]

/-- The tasks to run, one at least. -/
def runs (inner : Phrases) : Parse (List String) := do
  keyword .run
  let title ← text
  if ← follows (· = .keyword .run) then return title :: (← inner.runs) else return [title]

/-- A whole program. -/
def program (inner : Phrases) : Parse Program := do
  keyword .objective
  let objective ← text
  let allTasks ← tasks inner
  let allRuns ← runs inner
  return ⟨objective, allTasks, allRuns⟩

end Parse

namespace Phrases

/-- The parsers that are stuck at once. -/
def none : Phrases where
  expression := Parse.stuck
  sum _ := Parse.stuck
  product _ := Parse.stuck
  factor := Parse.stuck
  indices _ := Parse.stuck
  expressions := Parse.stuck
  entries := Parse.stuck
  statements := Parse.stuck
  otherBranches := Parse.stuck
  items := Parse.stuck
  tasks := Parse.stuck
  runs := Parse.stuck

/-- The parsers of phrases in which the given ones read what is within. -/
def around (inner : Phrases) : Phrases where
  expression := Parse.expression inner
  sum := Parse.sum inner
  product := Parse.product inner
  factor := Parse.factor inner
  indices := Parse.indices inner
  expressions := Parse.expressions inner
  entries := Parse.entries inner
  statements := Parse.statements inner
  otherBranches := Parse.otherBranches inner
  items := Parse.items inner
  tasks := Parse.tasks inner
  runs := Parse.runs inner

/-- The parsers of phrases that are nested to a depth. -/
def upTo : (depth : Nat) → Phrases
  | 0 => none
  | depth + 1 => (upTo depth).around

end Phrases

/-- The program that the tokens are, or the tokens from the first one on that does not fit. Each phrase
within another stands behind a token at least, so the number of tokens bounds the depth. -/
def parseTokens (tokens : List Placed) : Except (List Placed) Program :=
  match Parse.program (Phrases.upTo tokens.length) tokens with
  | .ok (program, []) => .ok program
  | .ok (_, rest) => .error rest
  | .error rest => .error rest

end Stepwise
