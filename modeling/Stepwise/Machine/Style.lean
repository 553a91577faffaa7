/-!
# Styles of output

A machine shows what it does as lines of text: the output of the program and, if it explains itself,
notes on what it is doing. A style says what such a line looks like. The category of a note is looked
up without regard to case.
-/

namespace Stepwise

/-- The styles of output. -/
inductive Style where
  | standard
  | minimal
  | detailed
  | color
  | markdown
  | educational
  deriving DecidableEq, Repr

namespace Style

/-- The name of a style. -/
def name : Style → String
  | .standard => "default"
  | .minimal => "minimal"
  | .detailed => "detailed"
  | .color => "color"
  | .markdown => "markdown"
  | .educational => "educational"

/-- All styles. -/
def all : List Style :=
  [.standard, .minimal, .detailed, .color, .markdown, .educational]

/-- The style of a name; an unknown name stands for the standard style. -/
def ofName (name : String) : Style :=
  (all.find? fun style => style.name == name).getD .standard

/-- The capital form of a character, as far as it consists of Latin letters. -/
def capital (c : Char) : List Char :=
  match c with
  | 'ß' => ['S', 'S']
  | 'ı' => ['I']
  | 'ſ' => ['S']
  | '\ufb00' => ['F', 'F']
  | '\ufb01' => ['F', 'I']
  | '\ufb02' => ['F', 'L']
  | '\ufb03' => ['F', 'F', 'I']
  | '\ufb04' => ['F', 'F', 'L']
  | '\ufb05' | '\ufb06' => ['S', 'T']
  | c => [c.toUpper]

/-- A category as it is looked up. -/
def capitals (category : String) : String :=
  String.ofList (category.toList.flatMap capital)

/-- The escape sequence for a colour or a weight. -/
def escape (code : String) : String :=
  "\x1b[" ++ code ++ "m"

/-- The colour of a category. -/
def colorCode (category : String) : String :=
  match capitals category with
  | "PROGRAM" | "TASK" => "94"
  | "STEP" => "93"
  | "VARIABLE" => "91"
  | "OUTPUT" | "SUBTASK" => "92"
  | "LOOP" => "96"
  | "ITERATION" => "36"
  | "COMPLETE" => "32"
  | "DECISION" => "95"
  | "CHECK" | "BRANCH" => "35"
  | "RESULT" => "34"
  | _ => "37"

/-- What stands before a message of a category in a document with headings. -/
def heading (category : String) : String :=
  match capitals category with
  | "TASK" => "##"
  | "SUBTASK" => "###"
  | "STEP" => "####"
  | "VARIABLE" => "*"
  | _ => "-"

/-- The icon of a category. -/
def icon (category : String) : String :=
  match capitals category with
  | "DECISION" => "🤔"
  | "CHECK" => "⚖️"
  | "RESULT" => "✨"
  | "BRANCH" => "↪️"
  | "LOOP" => "🔄"
  | "ITERATION" => "👉"
  | "INFO" => "ℹ️"
  | "COMPLETE" => "✅"
  | "VARIABLE" => "📝"
  | _ => "•"

/-- A line of the given length. -/
def ruler (c : Char) (length : Nat) : String :=
  String.ofList (List.replicate length c)

/-- The blanks in front of a line; a negative indentation counts as none. -/
def margin (indent : Int) : String :=
  ruler ' ' (2 * indent.toNat)

/-- Two lines around a third one, with empty lines before and after. -/
def framed (margin line content : String) : String :=
  "\n" ++ margin ++ line ++ "\n" ++ margin ++ content ++ "\n" ++ margin ++ line ++ "\n"

/-- The line that separates notes. -/
def noteRuler : String :=
  ruler '─' 40

/-- A category in its colour. -/
def colored (category : String) : String :=
  escape (colorCode category) ++ escape "1" ++ category ++ escape "0"

/-- A note in a style. -/
def note (style : Style) (indent : Int) (category message : String) : String :=
  match style with
  | .minimal => margin indent ++ category ++ ": " ++ message
  | .detailed => framed (margin indent) noteRuler (category ++ ": " ++ message)
  | .color => margin indent ++ colored category ++ ": " ++ message
  | .markdown => margin indent ++ heading category ++ " " ++ message
  | .educational => margin indent ++ icon category ++ " " ++ message
  | .standard => margin indent ++ "[" ++ category ++ "] " ++ message

/-- Output of the program in a style. -/
def output (style : Style) (indent : Int) (text : String) : String :=
  match style with
  | .minimal => margin indent ++ "OUTPUT: " ++ text
  | .detailed => framed (margin indent) noteRuler ("OUTPUT: " ++ text)
  | .color => margin indent ++ colored "OUTPUT" ++ ": " ++ text
  | .markdown => margin indent ++ "> " ++ text
  | .educational => margin indent ++ "📤 Output: " ++ text
  | .standard => margin indent ++ "[OUTPUT] " ++ text

/-- The opening of a run in a style. -/
def opening (style : Style) (indent : Int) (objective : String) : String :=
  match style with
  | .detailed => framed "" (ruler '=' 60) ("PROGRAM EXECUTION: " ++ objective)
  | style => style.note indent "PROGRAM" objective

end Style

end Stepwise
