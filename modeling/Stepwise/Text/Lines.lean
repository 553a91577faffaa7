/-!
# Lines

Positions and snippets count lines that end at a newline. The number of lines of a whole text is
counted by a wider rule, under which every line boundary of Unicode ends a line and a boundary at the
very end opens no further one.
-/

namespace Stepwise.Text

/-- The pieces of `chars` between the occurrences of `mark`, at least one. -/
def splitAtMark (mark : Char) : List Char → List (List Char)
  | [] => [[]]
  | c :: rest =>
    if c = mark then [] :: splitAtMark mark rest
    else
      match splitAtMark mark rest with
      | [] => [[c]]
      | piece :: pieces => (c :: piece) :: pieces

/-- The pieces of a text between the occurrences of a character. -/
def splitAt (mark : Char) (text : String) : List String :=
  (splitAtMark mark text.toList).map String.ofList

/-- The lines of a text, each without its newline. -/
def lines (text : String) : List String :=
  splitAt '\n' text

/-- Whether a character ends a line under the wider rule. -/
def isLineBoundary (c : Char) : Bool :=
  let point := c.toNat
  (10 ≤ point && point ≤ 13) || (28 ≤ point && point ≤ 30) || point == 0x85 ||
    point == 0x2028 || point == 0x2029

/-- The number of lines that `chars` adds, given whether a line is open before it. A carriage return
and the newline after it are one boundary. -/
def boundedLineCount (isOpen : Bool) : List Char → Nat
  | [] => if isOpen then 1 else 0
  | '\r' :: '\n' :: rest => 1 + boundedLineCount false rest
  | c :: rest =>
    if isLineBoundary c then 1 + boundedLineCount false rest else boundedLineCount true rest

/-- The number of lines of a text under the wider rule. -/
def lineCount (text : String) : Nat :=
  boundedLineCount false text.toList

/-- Whether `needle` occurs in `chars`. -/
def hasInfix (needle : List Char) : List Char → Bool
  | [] => needle.isEmpty
  | c :: rest => needle.isPrefixOf (c :: rest) || hasInfix needle rest

/-- Whether `needle` occurs in `text`. -/
def occursIn (needle text : String) : Bool :=
  hasInfix needle.toList text.toList

end Stepwise.Text
