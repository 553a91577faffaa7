import Stepwise.Proofs.Reading.Snippets

/-!
# The marked line of a snippet

A reader of a snippet finds one marked line and its number in it.  For a misplaced token this is the number of
the line that the report names.  For a text that ends too early the two are counted by different rules: the
marked line is the one behind the last newline, and the report names the number of lines that the text has
under the wider rule, where a newline at the end opens no line and other characters end lines too.
-/

namespace Stepwise

/-! ## Counts of lines -/

namespace Text

/-- The boundaries under the wider rule that are no newlines; a carriage return before a newline is part of
one boundary with it. -/
def otherBoundaries : List Char → Nat
  | [] => 0
  | '\r' :: '\n' :: rest => otherBoundaries rest
  | c :: rest =>
    if isLineBoundary c && c != '\n' then otherBoundaries rest + 1 else otherBoundaries rest

/-- Whether a line is open at the end, given whether one is before. -/
def endsOpen (isOpen : Bool) : List Char → Bool
  | [] => isOpen
  | c :: rest => endsOpen (!isLineBoundary c) rest

/-- Lines under the wider rule end at newlines and at the other boundaries, and at the end of the text if
a line is open there. -/
theorem boundedLineCount_eq (isOpen : Bool) (chars : List Char) :
    boundedLineCount isOpen chars =
      chars.count '\n' + otherBoundaries chars + (endsOpen isOpen chars).toNat := by
  have newline : isLineBoundary '\n' = true := by decide
  fun_induction boundedLineCount isOpen chars with
  | case1 => rfl
  | case2 isOpen closed =>
      rw [Bool.not_eq_true] at closed
      rw [closed]
      rfl
  | case3 isOpen rest ih =>
      rw [ih, otherBoundaries, endsOpen, endsOpen, newline, List.count_cons_of_ne (by decide),
        List.count_cons_self, Bool.not_true]
      omega
  | case4 isOpen c rest alone boundary ih =>
      rw [ih, otherBoundaries, endsOpen, boundary, Bool.not_true]
      case x_1 => exact alone
      by_cases isNewline : c = '\n'
      · rw [isNewline, List.count_cons_self, if_neg (by decide)]
        omega
      · rw [List.count_cons_of_ne isNewline, if_pos (by simpa using isNewline)]
        omega
  | case5 isOpen c rest alone inside ih =>
      have isOther : c ≠ '\n' := by
        rintro rfl
        exact inside newline
      rw [Bool.not_eq_true] at inside
      rw [ih, otherBoundaries, endsOpen, inside, List.count_cons_of_ne isOther]
      case x_1 => exact alone
      rfl

end Text

/-! ## Reports -/

namespace Reading

/-- The line that a report on a text names, and the numbers of the lines that its snippet marks. -/
def shownLines : Except Stop Program → Option (Int × List Nat)
  | .error (.report (.parsing _ (.int line) _ _ (.str snippet))) =>
    some (line, Source.markedNumbers snippet)
  | _ => none

theorem shownLines_misplaced {source : String} (short : Value.fewDigits source.length = true)
    {placed : Placed} (meets : Meets source (.misplaced placed)) :
    shownLines (Program.read source).outcome =
      some ((Source.lineNumber source placed.position : Int),
        [Source.lineNumber source placed.position]) := by
  obtain ⟨after, failed⟩ := meets.ends
  obtain ⟨before, same, -⟩ := parseTokens_eq_misplaced.mp failed
  have member : placed ∈ (lex source).tokens := same ▸ List.mem_append_right _ List.mem_cons_self
  have decided := meets.decided short
  generalize (Program.read source).outcome = outcome at decided ⊢
  cases decided with
  | misplaced made =>
      rw [misplacedReport_of_speakable (lex_cut source placed member).speakable] at made
      cases made
      exact congrArg (fun marked => some (_, marked)) (Source.markedNumbers_snippetAt _ _ 2)

theorem lineNumber_length (source : String) :
    Source.lineNumber source source.length = source.toList.count '\n' + 1 := by
  rw [Source.lineNumber_eq, ← String.length_toList, List.take_length]

theorem shownLines_unfinished {source : String} (short : Value.fewDigits source.length = true)
    {tokens : List Placed} (meets : Meets source (.finished tokens))
    (stuck : parseTokens tokens = .error []) :
    shownLines (Program.read source).outcome =
      some ((Text.lineCount source : Int), [source.toList.count '\n' + 1]) := by
  have decided := meets.decided short
  generalize (Program.read source).outcome = outcome at decided ⊢
  cases decided with
  | program parsed => cases stuck.symm.trans parsed
  | differing parsed => cases stuck.symm.trans parsed
  | unfinished =>
      rw [← lineNumber_length]
      exact congrArg (fun marked => some (_, marked)) (Source.markedNumbers_snippetAt _ _ 2)

/-- A syntax error marks one line in its snippet.  At a misplaced token this is the line that the report
names.  Where the text ends too early, it is the line behind the last newline, while the report names the
number of lines under the wider rule.  The two agree if and only if the boundaries that are no newlines,
and the end of the text if a line is open there, are one in all. -/
theorem syntaxError_marks (source : String) (short : Value.fewDigits source.length = true) :
    (∀ placed, Meets source (.misplaced placed) →
      ∃ line : Nat, shownLines (Program.read source).outcome = some ((line : Int), [line])) ∧
    ∀ tokens, Meets source (.finished tokens) → parseTokens tokens = .error [] →
      ∃ line marked : Nat, shownLines (Program.read source).outcome = some ((line : Int), [marked]) ∧
        (line = marked ↔ Text.otherBoundaries source.toList +
          (Text.endsOpen false source.toList).toNat = 1) := by
  refine ⟨fun placed meets => ⟨_, shownLines_misplaced short meets⟩, fun tokens meets stuck => ?_⟩
  refine ⟨_, _, shownLines_unfinished short meets stuck, ?_⟩
  rw [Text.lineCount, Text.boundedLineCount_eq]
  omega

/-- A misplaced word on the second line, and a text that ends behind its first word. -/
theorem syntaxError_marks_sample :
    let misplacing := "objective\ntask"
    let ending := "objective"
    (∃ placed, Value.fewDigits misplacing.length = true ∧ Meets misplacing (.misplaced placed) ∧
      ∃ line : Nat, shownLines (Program.read misplacing).outcome = some ((line : Int), [line])) ∧
    ∃ tokens, Value.fewDigits ending.length = true ∧ Meets ending (.finished tokens) ∧
      parseTokens tokens = .error [] ∧
      ∃ line marked : Nat, shownLines (Program.read ending).outcome = some ((line : Int), [marked]) ∧
        (line = marked ↔ Text.otherBoundaries ending.toList +
          (Text.endsOpen false ending.toList).toNat = 1) := by
  intro misplacing ending
  have shortMisplacing : Value.fewDigits misplacing.length = true := by decide +kernel
  have shortEnding : Value.fewDigits ending.length = true := by decide +kernel
  have misplaced : Meets "objective\ntask" (.misplaced ⟨.keyword .task, 10⟩) :=
    meets_of_ends ⟨[], rfl⟩
  have stuck : parseTokens [⟨.keyword .objective, 0⟩] = .error [] := rfl
  have finished : Meets "objective" (.finished [⟨.keyword .objective, 0⟩]) :=
    meets_of_ends ⟨rfl, fun _ _ failed => by cases stuck.symm.trans failed⟩
  exact ⟨⟨_, shortMisplacing, misplaced, (syntaxError_marks _ shortMisplacing).1 _ misplaced⟩,
    _, shortEnding, finished, stuck, (syntaxError_marks _ shortEnding).2 _ finished stuck⟩

/-- The report on a text that ends with a newline names the line before the one that it marks. -/
theorem unfinished_marks_next_line :
    shownLines (Program.read "objective \"o\"\n").outcome = some (1, [2]) := by
  decide +kernel

end Reading

end Stepwise
