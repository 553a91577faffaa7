import Stepwise.Text.Lines

/-!
# Places in a program text

Errors point at a line, a column and a snippet of the program text. Positions count characters from
zero; a negative position counts from the end of the text when the characters before it are counted,
and stands for itself in a column.
-/

namespace Stepwise.Source

/-- The characters before a position. -/
def before (source : String) (position : Int) : List Char :=
  let chars := source.toList
  chars.take (if position < 0 then position + chars.length else position).toNat

/-- The number of the line that a position is in, counted from one. -/
def lineNumber (source : String) (position : Int) : Nat :=
  (before source position).count '\n' + 1

/-- The place of the last newline before a position, zero if there is none. -/
def lastNewline (source : String) (position : Int) : Nat :=
  let chars := before source position
  chars.length - 1 - (chars.reverse.takeWhile (· != '\n')).length

/-- The column of a position: its distance from the last newline before it, or from the start of the
text. So columns count from one, and from zero on the first line. -/
def column (source : String) (position : Int) : Int :=
  position - lastNewline source position

/-- One line of a snippet, with its number and the mark if it is the marked one. -/
def snippetLine (marked : Bool) (number : Nat) (text : String) : String :=
  (if marked then "-> " else "   ") ++ toString number ++ ": " ++ text

/-- The lines from `window` before to `window` after a line, with their numbers, that line marked. -/
def snippet (source : String) (line window : Int) : String :=
  let lines := Text.lines source
  let start := (line - window - 1).toNat
  let stop := (min (lines.length : Int) (line + window)).toNat
  let numbered := (lines.zipIdx 1).take stop |>.drop start
  "\n".intercalate (numbered.map fun (text, number) => snippetLine ((number : Int) == line) number text)

/-- How many lines are shown before and after the one that an error points at. -/
def snippetWindow : Int := 2

/-- The snippet around a position. -/
def snippetAt (source : String) (position : Int) (window : Int) : String :=
  snippet source (lineNumber source position) window

/-- The snippet around a line, empty if there is no text. -/
def context (source : Option String) (line window : Int) : String :=
  match source with
  | none => ""
  | some text => if text == "" then "" else snippet text line window

end Stepwise.Source
