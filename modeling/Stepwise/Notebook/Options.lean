import Stepwise.Machine.Basic
import Stepwise.Number.Reading
import Stepwise.Text.Cutting

/-!
# The options of a cell

The line above a cell holds options, separated by blanks. An option is written in full or by the start
of its name, as far as no other option starts alike; its value follows as the next word or after an
equals sign. A word that starts with a minus and is no negative number is always an option. Two minus
signs alone end the options.

What is not understood makes the whole line count for nothing.
-/

namespace Stepwise.Notebook

/-- The options. -/
inductive Switch where
  | help
  | explain
  | style
  | maxIterations
  deriving DecidableEq, Repr

namespace Switch

/-- How an option is written in full. -/
def spelling : Switch → String
  | .help => "--help"
  | .explain => "--explain"
  | .style => "--style"
  | .maxIterations => "--max-iterations"

/-- All options. -/
def all : List Switch :=
  [.help, .explain, .style, .maxIterations]

/-- The short form of the option for help. -/
def shortHelp : String := "-h"

/-- The option that is written this way. -/
def ofSpelling? (text : String) : Option Switch :=
  if text == shortHelp then some .help else all.find? fun switch => switch.spelling == text

/-- The options whose full forms start this way. -/
def startingWith (text : String) : List Switch :=
  all.filter fun switch => text.toList.isPrefixOf switch.spelling.toList

end Switch

/-- What a word of the line is. -/
inductive Word where
  | argument (text : String)
  /-- Two minus signs alone. -/
  | divider
  | switch (switch : Switch) (value : Option String)
  /-- The short form for help with something attached to it. -/
  | helpWith (rest : List Char)
  | unknown
  deriving DecidableEq, Repr

namespace Word

/-- Whether a word is a negative number: a minus, and digits with at most one point before the last of
them. -/
def isNegativeNumber (word : List Char) : Bool :=
  match word with
  | '-' :: body =>
    let whole := body.takeWhile Text.isDecimalDigit
    match body.drop whole.length with
    | [] => !whole.isEmpty
    | '.' :: fraction => !fraction.isEmpty && fraction.all Text.isDecimalDigit
    | _ => false
  | _ => false

/-- A word that starts with two minus signs and is not written as any option in full: none if it could
be several options. -/
def ofAbbreviation (text : String) : Option Word :=
  let (start, value) := match Text.cutAt '=' text with
    | some (start, value) => (start, some value)
    | none => (text, none)
  match Switch.startingWith start with
  | [] => some .unknown
  | [found] => some (.switch found value)
  | _ => none

/-- A word that starts with a single minus and is not written as any option. -/
def ofShort : List Char → Word
  | '-' :: 'h' :: rest => .helpWith rest
  | word => if isNegativeNumber word then .argument (String.ofList word) else .unknown

/-- An option that is written in full, with a value after an equals sign. -/
def ofAssigned? (text : String) : Option Word :=
  match Text.cutAt '=' text with
  | none => none
  | some (start, value) =>
    if start == Switch.shortHelp then some (.helpWith value.toList)
    else (Switch.ofSpelling? start).map fun found => .switch found (some value)

/-- What a word before the divider is: none if it is ambiguous. -/
def ofText (text : String) : Option Word :=
  match text.toList with
  | '-' :: second :: rest =>
    match Switch.ofSpelling? text with
    | some found => some (.switch found none)
    | none =>
      match ofAssigned? text with
      | some word => some word
      | none => if second == '-' then ofAbbreviation text else some (ofShort ('-' :: second :: rest))
  | _ => some (.argument text)

/-- What the words of a line are: none if one is ambiguous. -/
def ofTexts : List String → Option (List Word)
  | [] => some []
  | "--" :: rest => some (.divider :: rest.map .argument)
  | text :: rest => do
    let word ← ofText text
    return word :: (← ofTexts rest)

end Word

/-- What the options say. -/
structure Options where
  explain : Bool
  style : Style
  maxIterations : Int
  deriving DecidableEq, Repr

namespace Options

/-- The options where none are given. -/
def initial : Options :=
  ⟨false, .standard, 5⟩

/-- What becomes of a line: it is accepted, it is refused, or it asks for help. -/
inductive Response where
  | accepted (options : Options)
  | refused
  | help
  deriving DecidableEq, Repr

/-- The options with the value of one of them; none if the option does not take it. -/
def set? (options : Options) (switch : Switch) (value : String) : Option Options :=
  match switch with
  | .style => (Style.all.find? fun style => style.name == value).map fun style =>
      { options with style }
  | .maxIterations =>
    match Number.readInt value with
    | .ok count => some { options with maxIterations := count }
    | .error _ => none
  | .help | .explain => none

/-- Obeys the words from left to right. A word that belongs to no option makes the line refused, but
only once all options have been obeyed. -/
def obey (options : Options) (superfluous : Bool) : List Word → Response
  | [] => if superfluous then .refused else .accepted options
  | .switch .help none :: _ => .help
  | .switch .explain none :: rest => obey { options with explain := true } superfluous rest
  | .switch switch (some value) :: rest =>
    match options.set? switch value with
    | some options => obey options superfluous rest
    | none => .refused
  | .switch switch none :: .argument value :: rest =>
    match options.set? switch value with
    | some options => obey options superfluous rest
    | none => .refused
  | .switch _ none :: _ => .refused
  | .helpWith letters :: _ =>
    if !letters.isEmpty && letters.all (· == 'h') then .help else .refused
  | .argument _ :: rest | .divider :: rest | .unknown :: rest => obey options true rest

/-- What becomes of a line of options. -/
def respond (line : String) : Response :=
  match Word.ofTexts (Text.words line) with
  | some words => obey initial false words
  | none => .refused

/-- The names of the styles, as help lists them. -/
def styleChoices : String :=
  "\x7b" ++ ",".intercalate (Style.all.map Style.name) ++ "\x7d"

/-- The text that explains the options. -/
def helpText : String :=
  "\n".intercalate
    ["usage: think [-h] [--explain]",
      "             [--style " ++ styleChoices ++ "]",
      "             [--max-iterations MAX_ITERATIONS]",
      "",
      "Think magic arguments",
      "",
      "options:",
      "  -h, --help            show this help message and exit",
      "  --explain             Enable explanation mode",
      "  --style " ++ styleChoices,
      "                        Set the explanation style",
      "  --max-iterations MAX_ITERATIONS",
      "                        Maximum number of iterations to show in detail",
      ""]

/-- What is printed about a line of options. -/
def printed (line : String) : String :=
  match respond line with
  | .help => helpText
  | .accepted _ | .refused => ""

/-- The settings of a machine that these options ask for. -/
def settings (options : Options) : Settings :=
  ⟨options.explain, options.style, options.maxIterations⟩

end Options

end Stepwise.Notebook
