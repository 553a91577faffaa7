import Stepwise.Number.Reading
import Stepwise.Token.Basic

/-!
# Lexing

The program text is cut into lexemes from left to right, with spaces, tabs and newlines between them.
At each position the first of these that fits is taken: a word, a quoted text, a floating point
number, an integer, a mark of two characters, a mark of one. A minus right before a digit belongs to
the number.

Lexing ends with the text, at a character where nothing fits, or at an integer that has too many
digits.
-/

namespace Stepwise

/-- Whether a character only separates lexemes. -/
def isLayout (c : Char) : Bool :=
  c == ' ' || c == '\t' || c == '\n'

/-- What a lexeme is. -/
inductive Shape where
  | word
  | text
  | float
  | int
  | mark (sign : Mark)
  deriving DecidableEq, Repr

namespace Shape

/-- Whether a word may start with this character. -/
def startsWord (c : Char) : Bool :=
  c.isAlpha || c == '_'

/-- Whether a word may go on with this character. -/
def continuesWord (c : Char) : Bool :=
  c.isAlphanum || c == '_'

/-- The word that `chars` starts with. -/
def word? : List Char → Option (List Char)
  | [] => none
  | c :: rest => if startsWord c then some (c :: rest.takeWhile continuesWord) else none

/-- The quoted text that `chars` starts with, up to the next quote of the same kind. -/
def text? : List Char → Option (List Char)
  | [] => none
  | c :: rest =>
    if c == '"' || c == '\'' then
      let content := rest.takeWhile (· != c)
      if content.length < rest.length then some (c :: (content ++ [c])) else none
    else none

/-- The digits that `chars` starts with. -/
def digits (chars : List Char) : List Char :=
  chars.takeWhile Text.isDecimalDigit

/-- The exponent that `chars` starts with, with its letter and sign. -/
def exponent? : List Char → Option (List Char)
  | [] => none
  | c :: rest =>
    if c == 'e' || c == 'E' then
      let sign := (rest.take 1).filter fun s => s == '+' || s == '-'
      let body := digits (rest.drop sign.length)
      if body.isEmpty then none else some (c :: (sign ++ body))
    else none

/-- The minus that `chars` starts with, if any. -/
def minus (chars : List Char) : List Char :=
  (chars.take 1).filter (· == '-')

/-- The digits behind the point that `chars` starts with. -/
def fraction : List Char → List Char
  | '.' :: after => digits after
  | _ => []

/-- The floating point number that `chars` starts with: a point with a digit after it, or digits and
an exponent. -/
def float? (chars : List Char) : Option (List Char) :=
  let sign := minus chars
  let whole := digits (chars.drop sign.length)
  let rest := chars.drop (sign.length + whole.length)
  let behind := fraction rest
  if behind.isEmpty then
    if whole.isEmpty then none
    else (exponent? rest).map fun exponent => sign ++ whole ++ exponent
  else
    some (sign ++ whole ++ '.' :: behind ++ (exponent? (rest.drop (behind.length + 1))).getD [])

/-- The integer that `chars` starts with. -/
def int? (chars : List Char) : Option (List Char) :=
  let sign := minus chars
  let whole := digits (chars.drop sign.length)
  if whole.isEmpty then none else some (sign ++ whole)

/-- The mark of two characters that `chars` starts with. -/
def doubleMark? : List Char → Option Mark
  | '=' :: '=' :: _ => some .equal
  | '>' :: '=' :: _ => some .greaterEqual
  | '<' :: '=' :: _ => some .lessEqual
  | '!' :: '=' :: _ => some .notEqual
  | _ => none

/-- The mark of one character that `chars` starts with. -/
def singleMark? : List Char → Option Mark
  | '=' :: _ => some .equals
  | '+' :: _ => some .plus
  | '-' :: _ => some .minus
  | '*' :: _ => some .times
  | '/' :: _ => some .divide
  | '(' :: _ => some .openParen
  | ')' :: _ => some .closeParen
  | '\x7b' :: _ => some .openBrace
  | '\x7d' :: _ => some .closeBrace
  | '[' :: _ => some .openBracket
  | ']' :: _ => some .closeBracket
  | ',' :: _ => some .comma
  | '>' :: _ => some .greater
  | '<' :: _ => some .less
  | ':' :: _ => some .colon
  | _ => none

/-- The mark that `chars` starts with. -/
def mark? (chars : List Char) : Option Mark :=
  (doubleMark? chars).orElse fun _ => singleMark? chars

end Shape

/-- The shape of the lexeme that `chars` starts with, and its characters. -/
def lexeme? (chars : List Char) : Option (Shape × List Char) :=
  match Shape.word? chars with
  | some lexeme => some (.word, lexeme)
  | none =>
    match Shape.text? chars with
    | some lexeme => some (.text, lexeme)
    | none =>
      match Shape.float? chars with
      | some lexeme => some (.float, lexeme)
      | none =>
        match Shape.int? chars with
        | some lexeme => some (.int, lexeme)
        | none => (Shape.mark? chars).map fun sign => (.mark sign, sign.symbol.toList)

/-- The characters without the first `count` and the last `count`. -/
def withoutEnds (count : Nat) (chars : List Char) : List Char :=
  (chars.drop count).take (chars.length - 2 * count)

/-- What stands between the quotes of a quoted text, which are three at either end if it starts with
three. -/
def unquoted (lexeme : List Char) : String :=
  let triple := ['"', '"', '"'].isPrefixOf lexeme || ['\'', '\'', '\''].isPrefixOf lexeme
  String.ofList (withoutEnds (if triple then 3 else 1) lexeme)

/-- The token of a lexeme. Only an integer can be refused, for its number of digits. -/
def Token.ofLexeme (shape : Shape) (lexeme : List Char) : Except Fault Token :=
  match shape with
  | .word => .ok (.ofWord (String.ofList lexeme))
  | .text => .ok (.text (unquoted lexeme))
  | .float => (Number.readFloat (String.ofList lexeme)).map .float
  | .int => (Number.readInt (String.ofList lexeme)).map .int
  | .mark sign => .ok (.mark sign)

/-- The truth value of a word: only the word for true stands for true. -/
def Token.truthOfWord (word : String) : Bool :=
  word == truthWord true

/-- The line that traces a token. -/
def Token.traceLine (kind text : String) (position : Int) : String :=
  "DEBUG: Token: " ++ kind ++ ", Value: " ++ text ++ ", pos=" ++ toString position

/-- How lexing ends. -/
inductive Ending where
  /-- The text is used up. -/
  | finished
  /-- No lexeme fits at a position; `rest` is what stands there. -/
  | illegal (position : Nat) (rest : List Char)
  /-- The lexeme at a position is refused. -/
  | refused (position : Nat) (fault : Fault)

/-- What lexing gives: the tokens before the end, and the way it ends. -/
structure Lexed where
  tokens : List Placed
  ending : Ending

/-- The result with one more token in front. -/
def Lexed.cons (token : Placed) (lexed : Lexed) : Lexed :=
  { lexed with tokens := token :: lexed.tokens }

/-- Lexing from a position on, of which the first `skip` characters belong to a lexeme already
taken. -/
def lexFrom (skip position : Nat) : List Char → Lexed
  | [] => ⟨[], .finished⟩
  | c :: rest =>
    match skip with
    | skip + 1 => lexFrom skip (position + 1) rest
    | 0 =>
      if isLayout c then lexFrom 0 (position + 1) rest
      else
        match lexeme? (c :: rest) with
        | none => ⟨[], .illegal position (c :: rest)⟩
        | some (shape, lexeme) =>
          match Token.ofLexeme shape lexeme with
          | .error fault => ⟨[], .refused position fault⟩
          | .ok token =>
            (lexFrom (lexeme.length - 1) (position + 1) rest).cons ⟨token, position⟩

/-- The tokens of a program text. -/
def lex (source : String) : Lexed :=
  lexFrom 0 0 source.toList

end Stepwise
