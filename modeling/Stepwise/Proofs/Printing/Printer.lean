import Stepwise.Number.Shortest
import Stepwise.Program.Basic
import Stepwise.Token.Lexer

/-!
# Printing programs

A canonical way to write a program as a text: its tokens with single spaces between them.

Expressions have five levels, and each operand stands at a position of some level.  It is put in
parentheses exactly where the level of its position does not admit it.  Indices are the exception: an
operation that is indexed stands in parentheses, and so does the chain of all its indices.

`Program.Printable` describes the programs that a text can stand for.  A choice takes every statement
behind it, so it stands last, and an alternative belongs to the innermost choice that is open.
-/

namespace Stepwise

/-! ## Levels -/

/-- The levels of expressions, from the loosest to the tightest. -/
inductive Level where
  | expression
  | arithmetic
  | term
  | factor
  | primary
  deriving DecidableEq, Repr

namespace Level

def rank : Level → Nat
  | .expression => 0
  | .arithmetic => 1
  | .term => 2
  | .factor => 3
  | .primary => 4

/-- Whether an expression of a level may stand at a position without parentheses. -/
def admits (position level : Level) : Bool :=
  position.rank ≤ level.rank

end Level

namespace Operator

/-- The level of the operations with an operator. -/
def level : Operator → Level
  | .plus | .minus => .arithmetic
  | .times | .divide => .term
  | _ => .expression

/-- The level of the left operand: sums and products go on to the right, and a comparison does not
compare comparisons. -/
def leftLevel : Operator → Level
  | .plus | .minus => .arithmetic
  | .times | .divide => .term
  | _ => .arithmetic

/-- The level of the right operand. -/
def rightLevel : Operator → Level
  | .plus | .minus => .term
  | .times | .divide => .factor
  | _ => .arithmetic

def mark : Operator → Mark
  | .plus => .plus
  | .minus => .minus
  | .times => .times
  | .divide => .divide
  | .greater => .greater
  | .less => .less
  | .equal => .equal
  | .greaterEqual => .greaterEqual
  | .lessEqual => .lessEqual
  | .notEqual => .notEqual

end Operator

/-! ## Tokens -/

namespace Token

/-- A quote that does not stand in the content, if one of the two does not. -/
def quoteFor (content : String) : Char :=
  if '"' ∈ content.toList then '\'' else '"'

/-- How a token is written. -/
def written : Token → String
  | .keyword reserved => reserved.word
  | .name word => word
  | .truth holds => truthWord holds
  | .text content => String.ofList (quoteFor content :: (content.toList ++ [quoteFor content]))
  | .int n => toString n
  | .float x => Number.shortestText x
  | .mark sign => sign.symbol

def parenthesized (tokens : List Token) : List Token :=
  .mark .openParen :: (tokens ++ [.mark .closeParen])

/-- Stretches of tokens with commas between them. -/
def commas : List (List Token) → List Token
  | [] => []
  | [tokens] => tokens
  | tokens :: rest => tokens ++ .mark .comma :: commas rest

/-- The text of some tokens. -/
def line (tokens : List Token) : String :=
  " ".intercalate (tokens.map written)

end Token

/-! ## Expressions -/

namespace Expr

def level : Expr → Level
  | .negate _ => .factor
  | .binary operator _ _ => operator.level
  | _ => .primary

/-- Whether an expression is a chain of indices behind an operation. -/
def indexesOperation : Expr → Bool
  | .index container _ => container.level != .primary || container.indexesOperation
  | _ => false

/-- The tokens of an expression at a position, given those of the expression by itself. -/
def enclosedAt (position : Level) (expr : Expr) (tokens : List Token) : List Token :=
  if position.admits expr.level && !expr.indexesOperation then tokens
  else Token.parenthesized tokens

/-- The tokens of an expression in front of an index, given those of the expression by itself. -/
def enclosedContainer (expr : Expr) (tokens : List Token) : List Token :=
  if expr.level = .primary then tokens else Token.parenthesized tokens

mutual

/-- The tokens of an expression by itself. -/
def body : Expr → List Token
  | .name word => [Token.ofWord word]
  | .int n => [.int n]
  | .float x => [.float x]
  | .text content => [.text content]
  | .list items =>
    .mark .openBracket :: (Token.commas (itemTokens items) ++ [.mark .closeBracket])
  | .dict entries =>
    .mark .openBrace :: (Token.commas (entryTokens entries) ++ [.mark .closeBrace])
  | .call function arguments =>
    .name function :: .mark .openParen ::
      (Token.commas (itemTokens arguments) ++ [.mark .closeParen])
  | .index container key =>
    enclosedContainer container (body container) ++ .mark .openBracket ::
      (enclosedAt .expression key (body key) ++ [.mark .closeBracket])
  | .negate operand => .mark .minus :: enclosedAt .factor operand (body operand)
  | .binary operator left right =>
    enclosedAt operator.leftLevel left (body left) ++ .mark operator.mark ::
      enclosedAt operator.rightLevel right (body right)

/-- The tokens of several expressions. -/
def itemTokens : List Expr → List (List Token)
  | [] => []
  | item :: items => enclosedAt .expression item (body item) :: itemTokens items

/-- The tokens of the entries of a dictionary. -/
def entryTokens : List (Expr × Expr) → List (List Token)
  | [] => []
  | (key, value) :: rest =>
    (enclosedAt .expression key (body key) ++ .mark .colon ::
      enclosedAt .expression value (body value)) :: entryTokens rest

end

/-- The tokens of an expression at a position. -/
def tokensAt (position : Level) (expr : Expr) : List Token :=
  expr.enclosedAt position expr.body

def tokens (expr : Expr) : List Token :=
  expr.tokensAt .expression

end Expr

/-! ## Statements and programs -/

def LoopSource.tokens : LoopSource → List Token
  | .name word => [.name word]
  | .enumerated word =>
    [.keyword .enumerate, .mark .openParen, .name word, .mark .closeParen]

namespace Stmt

/-- The tokens of the alternative without a test, if there is one. -/
def elseTokens (hasElse : Bool) : List Token :=
  if hasElse then [.keyword .elseWord, .mark .colon] else []

/-- The tokens of a test with its body, given those of the body. -/
def branchTokens (test : Expr) (inside : List Token) : List Token :=
  test.tokens ++ .keyword .thenWord :: .mark .colon :: inside

/-- The tokens of the body of a loop, given those of its statements. -/
def loopTokens (inside : List Token) : List Token :=
  .mark .colon :: (inside ++ [.keyword .endWord])

mutual

def tokens : Stmt → List Token
  | .assign target value => .name target :: .mark .equals :: value.tokens
  | .call function arguments => (Expr.call function arguments).body
  | .yield value => .keyword .returnWord :: value.tokens
  | .decide test body others hasElse =>
    .keyword .decide :: .mark .colon :: .keyword .ifWord ::
      (branchTokens test (allTokens body) ++ (otherTokens others ++ elseTokens hasElse))
  | .forEach item source body =>
    .keyword .forWord :: .name item :: .keyword .inWord ::
      (source.tokens ++ loopTokens (allTokens body))
  | .forRange item bound body =>
    .keyword .forWord :: .name item :: .keyword .inWord :: .keyword .range :: .mark .openParen ::
      (bound.tokens ++ .mark .closeParen :: loopTokens (allTokens body))
  | .forEnumerated index element collection body =>
    .keyword .forWord :: .name index :: .mark .comma :: .name element :: .keyword .inWord ::
      ((LoopSource.enumerated collection).tokens ++ loopTokens (allTokens body))

/-- The tokens of several statements. -/
def allTokens : List Stmt → List Token
  | [] => []
  | statement :: rest => tokens statement ++ allTokens rest

/-- The tokens of the branches with a test after the first one. -/
def otherTokens : List (Expr × List Stmt) → List Token
  | [] => []
  | (test, body) :: rest =>
    .keyword .elif :: (branchTokens test (allTokens body) ++ otherTokens rest)

end

end Stmt

def Item.tokens : Item → List Token
  | .step name body => .keyword .step :: .text name :: .mark .colon :: Stmt.allTokens body
  | .subtask name body => .keyword .subtask :: .text name :: .mark .colon :: Stmt.allTokens body

def Task.tokens (task : Task) : List Token :=
  .keyword .task :: .text task.name :: .mark .colon :: task.items.flatMap Item.tokens

namespace Program

def tokens (program : Program) : List Token :=
  .keyword .objective :: .text program.objective ::
    (program.tasks.flatMap Task.tokens ++
      program.runs.flatMap fun name => [.keyword .run, .text name])

/-- The canonical text of a program. -/
def print (program : Program) : String :=
  Token.line program.tokens

end Program

/-! ## Printable programs -/

/-- A word that may stand as an expression: a name, or a word for a truth value. -/
def IsVariable (word : String) : Prop :=
  Shape.word? word.toList = some word.toList ∧ Keyword.ofWord? word = none

/-- A word that may be assigned to, looped with or called. -/
def IsName (word : String) : Prop :=
  Shape.word? word.toList = some word.toList ∧ Token.ofWord word = .name word

/-- A text that can stand between quotes of one kind. -/
def IsQuotable (content : String) : Prop :=
  ¬ ('"' ∈ content.toList ∧ '\'' ∈ content.toList)

instance (word : String) : Decidable (IsVariable word) :=
  inferInstanceAs (Decidable (_ ∧ _))

instance (word : String) : Decidable (IsName word) :=
  inferInstanceAs (Decidable (_ ∧ _))

instance (content : String) : Decidable (IsQuotable content) :=
  inferInstanceAs (Decidable (¬ _))

/-- A finite number whose shortest text is read back as the number. -/
def Number.ReadsBack (x : Float) : Prop :=
  (∃ negative mantissa exponent, exact x = .finite negative mantissa exponent) ∧
    readFloat (shortestText x) = .ok x

namespace Expr

mutual

def Printable : Expr → Prop
  | .name word => IsVariable word
  | .int n => Value.fewDigits n = true
  | .float x => Number.ReadsBack x
  | .text content => IsQuotable content
  | .list items => AllPrintable items
  | .dict entries => EntriesPrintable entries
  | .call function arguments => IsName function ∧ AllPrintable arguments
  | .index container key => Printable container ∧ Printable key
  | .negate operand => Printable operand
  | .binary _ left right => Printable left ∧ Printable right

def AllPrintable : List Expr → Prop
  | [] => True
  | item :: items => Printable item ∧ AllPrintable items

def EntriesPrintable : List (Expr × Expr) → Prop
  | [] => True
  | (key, value) :: rest => (Printable key ∧ Printable value) ∧ EntriesPrintable rest

end

end Expr

def LoopSource.Printable : LoopSource → Prop
  | .name word | .enumerated word => IsName word

namespace Stmt

def isDecide : Stmt → Bool
  | .decide .. => true
  | _ => false

/-- Whether a list of statements ends with a choice that has no `else`, which an alternative behind it
would belong to. -/
def endsOpen (statements : List Stmt) : Bool :=
  match statements.getLast? with
  | some (.decide _ _ _ hasElse) => !hasElse
  | _ => false

mutual

def Printable : Stmt → Prop
  | .assign target value => IsName target ∧ value.Printable
  | .call function arguments => (Expr.call function arguments).Printable
  | .yield value => value.Printable
  | .decide test body others hasElse =>
    (test.Printable ∧ AllPrintable body ∧
      ((others ≠ [] ∨ hasElse = true) → endsOpen body = false)) ∧
    OthersPrintable hasElse others
  | .forEach item source body =>
    IsName item ∧ source.Printable ∧ body ≠ [] ∧ AllPrintable body
  | .forRange item bound body =>
    IsName item ∧ bound.Printable ∧ body ≠ [] ∧ AllPrintable body
  | .forEnumerated index element collection body =>
    IsName index ∧ IsName element ∧ IsName collection ∧ body ≠ [] ∧ AllPrintable body

/-- Printable statements, of which only the last one is a choice. -/
def AllPrintable : List Stmt → Prop
  | [] => True
  | statement :: rest =>
    (Printable statement ∧ (isDecide statement = true → rest = [])) ∧ AllPrintable rest

/-- Printable branches after the first one; none but the last one ends open. -/
def OthersPrintable (hasElse : Bool) : List (Expr × List Stmt) → Prop
  | [] => True
  | (test, body) :: rest =>
    (test.Printable ∧ AllPrintable body ∧
      ((rest ≠ [] ∨ hasElse = true) → endsOpen body = false)) ∧
    OthersPrintable hasElse rest

end

end Stmt

def Item.Printable : Item → Prop
  | .step name body | .subtask name body => IsQuotable name ∧ Stmt.AllPrintable body

def Task.Printable (task : Task) : Prop :=
  IsQuotable task.name ∧ task.items ≠ [] ∧ ∀ item ∈ task.items, item.Printable

/-- The programs that a text can stand for. -/
structure Program.Printable (program : Program) : Prop where
  objective : IsQuotable program.objective
  someTask : program.tasks ≠ []
  tasks : ∀ task ∈ program.tasks, task.Printable
  someRun : program.runs ≠ []
  runs : ∀ name ∈ program.runs, IsQuotable name
  /-- Exactly the tasks that there are are run. -/
  sameNames : ∀ name, name ∈ program.tasks.map Task.name ↔ name ∈ program.runs

end Stepwise
