import Stepwise.Text.Printable

/-!
# Quoted text

A text inside a list, a dictionary or a message is shown between quotes. The quote is an apostrophe,
unless the text holds an apostrophe and no double quote. The quote itself, the backslash and every
character that is not printable are escaped.
-/

namespace Stepwise.Text

/-- The number in base sixteen, in lower case, padded with zeros to the given width. -/
def hexPadded (width number : Nat) : List Char :=
  let digits := Nat.toDigits 16 number
  List.replicate (width - digits.length) '0' ++ digits

/-- The quote that surrounds a text. -/
def quoteMark (chars : List Char) : Char :=
  if chars.contains '\'' && !chars.contains '"' then '"' else '\''

/-- How a character is written between quotes of the given kind. -/
def escapeChar (mark c : Char) : List Char :=
  if c == '\\' || c == mark then ['\\', c]
  else if c == '\n' then ['\\', 'n']
  else if c == '\r' then ['\\', 'r']
  else if c == '\t' then ['\\', 't']
  else if isPrintable c then [c]
  else if c.toNat < 0x100 then '\\' :: 'x' :: hexPadded 2 c.toNat
  else if c.toNat < 0x10000 then '\\' :: 'u' :: hexPadded 4 c.toNat
  else '\\' :: 'U' :: hexPadded 8 c.toNat

/-- The text between quotes. -/
def quoted (text : String) : String :=
  let mark := quoteMark text.toList
  String.ofList (mark :: (text.toList.flatMap (escapeChar mark) ++ [mark]))

end Stepwise.Text
