import Stepwise.Number.Shortest
import Stepwise.Text.Quoted
import Stepwise.Value.Basic

/-!
# The text of a value

`quoted` is the text of a value inside a container and `shown` its text alone: they differ for a text,
which stands between quotes inside a container.

A text is refused for an integer of more than `maxDigits` digits; `speakable` says whether a value
holds none.
-/

namespace Stepwise.Value

/-- The greatest number of digits that an integer may have when it is read or shown. -/
def maxDigits : Nat := 4300

/-- Whether an integer has a text. -/
def fewDigits (n : Int) : Bool :=
  n.natAbs < Nat.pow 10 maxDigits

/-- Items separated by commas. -/
def commaSeparated (items : List String) : String :=
  ", ".intercalate items

mutual

/-- The text of a value inside a container. -/
def quoted : Value → String
  | .null => "None"
  | .bool value => if value then "True" else "False"
  | .int value => toString value
  | .float value => Number.shortestText value
  | .str text => Text.quoted text
  | .list items => "[" ++ commaSeparated (quotedItems items) ++ "]"
  | .tuple [item] => "(" ++ quoted item ++ ",)"
  | .tuple items => "(" ++ commaSeparated (quotedItems items) ++ ")"
  | .dict entries => "\x7b" ++ commaSeparated (quotedEntries entries) ++ "\x7d"
  | .range start stop step =>
    "range(" ++ commaSeparated
      ([toString start, toString stop] ++ if step == 1 then [] else [toString step]) ++ ")"
  | .cursor _ => "<enumerate object>"

/-- The texts of the items of a sequence. -/
def quotedItems : List Value → List String
  | [] => []
  | item :: items => quoted item :: quotedItems items

/-- The texts of the entries of a dictionary. -/
def quotedEntries : List (Value × Value) → List String
  | [] => []
  | (key, value) :: rest => (quoted key ++ ": " ++ quoted value) :: quotedEntries rest

end

/-- The text of a value alone. -/
def shown : Value → String
  | .str text => text
  | value => quoted value

mutual

/-- Whether every integer of a value has a text. -/
def speakable : Value → Bool
  | .int value => fewDigits value
  | .list items => speakableItems items
  | .tuple items => speakableItems items
  | .dict entries => speakableEntries entries
  | .range start stop step => fewDigits start && fewDigits stop && fewDigits step
  | _ => true

/-- Whether every integer of a sequence has a text. -/
def speakableItems : List Value → Bool
  | [] => true
  | item :: items => speakable item && speakableItems items

/-- Whether every integer of a dictionary has a text. -/
def speakableEntries : List (Value × Value) → Bool
  | [] => true
  | (key, value) :: rest => speakable key && speakable value && speakableEntries rest

end

end Stepwise.Value
