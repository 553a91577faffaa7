import Stepwise.Text.Boundaries
import Stepwise.Text.CaseTable

/-!
# Title case

In title case every letter that starts a word has its title form and every other letter its lower
form. A word starts after each character that has no case, so digits and apostrophes start one too.
-/

namespace Stepwise.Text

/-- Whether a character is a letter that has a case. -/
def isCased (c : Char) : Bool :=
  withinBounds casedBounds c

/-- Whether a character is passed over when the neighbourhood of a sigma is looked at. -/
def isCaseIgnorable (c : Char) : Bool :=
  withinBounds caseIgnorableBounds c

/-- The other form of a character according to a table of runs and a table of longer forms. -/
def caseForm (runs : List CaseRun) (expansions : List (Nat × List Nat)) (c : Char) : List Char :=
  match expansions.lookup c.toNat with
  | some form => form.map Char.ofNat
  | none =>
    match runs.find? fun run =>
        run.first ≤ c.toNat && c.toNat ≤ run.last && (c.toNat - run.first) % run.stride == 0 with
    | some run => [Char.ofNat ((c.toNat : Int) + run.shift).toNat]
    | none => [c]

/-- The form of a letter at the start of a word. -/
def titleForm (c : Char) : List Char :=
  caseForm titleRuns titleExpansions c

/-- The form of a letter inside a word, the capital sigma apart. -/
def lowerForm (c : Char) : List Char :=
  caseForm lowerRuns lowerExpansions c

/-- Whether the nearest character that is not passed over is a cased one. -/
def meetsCased (neighbours : List Char) : Bool :=
  match neighbours.dropWhile isCaseIgnorable with
  | [] => false
  | c :: _ => isCased c

/-- The lower form of a capital sigma: the final form at the end of a word of at least two letters. -/
def lowerSigma (before after : List Char) : Char :=
  if meetsCased before && !meetsCased after then 'ς' else 'σ'

/-- Title case of what follows `before`, which is given backwards. -/
def titleCaseAfter (before : List Char) : List Char → List Char
  | [] => []
  | c :: rest =>
    let inWord := match before with
      | [] => false
      | previous :: _ => isCased previous
    let form :=
      if !inWord then titleForm c
      else if c == 'Σ' then [lowerSigma before rest]
      else lowerForm c
    form ++ titleCaseAfter (c :: before) rest

/-- The text in title case. -/
def titleCase (text : String) : String :=
  String.ofList (titleCaseAfter [] text.toList)

end Stepwise.Text
