import Stepwise.Value.Access

/-!
# Tokens

The words, literals and marks that a program text is made of. A token knows its kind, by the name that
messages use, and its value, as a syntax error reports it.
-/

namespace Stepwise

/-- The reserved words. -/
inductive Keyword where
  | objective
  | task
  | subtask
  | step
  | run
  | ifWord
  | elseWord
  | thenWord
  | decide
  | forWord
  | inWord
  | returnWord
  | elif
  | range
  | enumerate
  | endWord
  deriving DecidableEq, Repr

namespace Keyword

/-- How a reserved word is written. -/
def word : Keyword → String
  | .objective => "objective"
  | .task => "task"
  | .subtask => "subtask"
  | .step => "step"
  | .run => "run"
  | .ifWord => "if"
  | .elseWord => "else"
  | .thenWord => "then"
  | .decide => "decide"
  | .forWord => "for"
  | .inWord => "in"
  | .returnWord => "return"
  | .elif => "elif"
  | .range => "range"
  | .enumerate => "enumerate"
  | .endWord => "end"

/-- The name of a reserved word's kind: the word in capitals. -/
def kindName : Keyword → String
  | .objective => "OBJECTIVE"
  | .task => "TASK"
  | .subtask => "SUBTASK"
  | .step => "STEP"
  | .run => "RUN"
  | .ifWord => "IF"
  | .elseWord => "ELSE"
  | .thenWord => "THEN"
  | .decide => "DECIDE"
  | .forWord => "FOR"
  | .inWord => "IN"
  | .returnWord => "RETURN"
  | .elif => "ELIF"
  | .range => "RANGE"
  | .enumerate => "ENUMERATE"
  | .endWord => "END"

/-- All reserved words. -/
def all : List Keyword :=
  [.objective, .task, .subtask, .step, .run, .ifWord, .elseWord, .thenWord, .decide, .forWord,
    .inWord, .returnWord, .elif, .range, .enumerate, .endWord]

/-- The reserved word that a text is. -/
def ofWord? (text : String) : Option Keyword :=
  all.find? fun keyword => keyword.word == text

end Keyword

/-- The operators and other marks. -/
inductive Mark where
  | equals
  | plus
  | minus
  | times
  | divide
  | openParen
  | closeParen
  | openBrace
  | closeBrace
  | openBracket
  | closeBracket
  | comma
  | greater
  | less
  | equal
  | greaterEqual
  | lessEqual
  | notEqual
  | colon
  deriving DecidableEq, Repr

namespace Mark

/-- How a mark is written. -/
def symbol : Mark → String
  | .equals => "="
  | .plus => "+"
  | .minus => "-"
  | .times => "*"
  | .divide => "/"
  | .openParen => "("
  | .closeParen => ")"
  | .openBrace => "\x7b"
  | .closeBrace => "\x7d"
  | .openBracket => "["
  | .closeBracket => "]"
  | .comma => ","
  | .greater => ">"
  | .less => "<"
  | .equal => "=="
  | .greaterEqual => ">="
  | .lessEqual => "<="
  | .notEqual => "!="
  | .colon => ":"

/-- The name of a mark's kind. -/
def kindName : Mark → String
  | .equals => "EQUALS"
  | .plus => "PLUS"
  | .minus => "MINUS"
  | .times => "TIMES"
  | .divide => "DIVIDE"
  | .openParen => "LPAREN"
  | .closeParen => "RPAREN"
  | .openBrace => "LBRACE"
  | .closeBrace => "RBRACE"
  | .openBracket => "LBRACKET"
  | .closeBracket => "RBRACKET"
  | .comma => "COMMA"
  | .greater => "GREATER"
  | .less => "LESS"
  | .equal => "EQUALS_EQUALS"
  | .greaterEqual => "GREATER_EQUALS"
  | .lessEqual => "LESS_EQUALS"
  | .notEqual => "NOT_EQUALS"
  | .colon => "COLON"

end Mark

/-- A token of a program text. -/
inductive Token where
  | keyword (reserved : Keyword)
  | name (word : String)
  /-- The word for true or for false, which names a variable all the same. -/
  | truth (holds : Bool)
  | text (content : String)
  | int (n : Int)
  | float (x : Float)
  | mark (sign : Mark)
  deriving DecidableEq

namespace Token

/-- The word for a truth value. -/
def truthWord (value : Bool) : String :=
  if value then "True" else "False"

/-- The name of a token's kind. -/
def kindName : Token → String
  | .keyword reserved => reserved.kindName
  | .name _ => "IDENTIFIER"
  | .truth _ => "BOOL"
  | .text _ => "STRING"
  | .int _ => "NUMBER"
  | .float _ => "FLOAT"
  | .mark sign => sign.kindName

/-- The value of a token. A quoted text is wrapped as in a syntax tree. -/
def value : Token → Value
  | .keyword reserved => .str reserved.word
  | .name word => .str word
  | .truth holds => .str (truthWord holds)
  | .text content => .textLiteral (.str content)
  | .int n => .int n
  | .float x => .float x
  | .mark sign => .str sign.symbol

/-- The token that a word is: a reserved word, a word for a truth value, or a name. -/
def ofWord (word : String) : Token :=
  match Keyword.ofWord? word with
  | some reserved => .keyword reserved
  | none =>
    if word == truthWord true then .truth true
    else if word == truthWord false then .truth false
    else .name word

end Token

/-- A token with the position of its first character in the program text. -/
structure Placed where
  token : Token
  position : Nat
  deriving DecidableEq

end Stepwise
