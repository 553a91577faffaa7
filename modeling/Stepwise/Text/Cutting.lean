import Stepwise.Text.Lines

/-!
# Cutting texts

Leaving out every occurrence of a mark, and cutting a text at the first occurrence of a character.
-/

namespace Stepwise.Text

/-- The characters without the occurrences of `first` followed by `second`, from left to right. -/
def withoutPair (first second : Char) : List Char → List Char
  | [] => []
  | [c] => [c]
  | c :: d :: rest =>
    if c == first && d == second then withoutPair first second rest
    else c :: withoutPair first second (d :: rest)

/-- What stands before the first occurrence of a character and what stands after it. -/
def cutAt (mark : Char) (text : String) : Option (String × String) :=
  let chars := text.toList
  let before := chars.takeWhile (· != mark)
  match chars.drop before.length with
  | [] => none
  | _ :: after => some (String.ofList before, String.ofList after)

end Stepwise.Text
