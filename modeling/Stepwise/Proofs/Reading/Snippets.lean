import Mathlib.Data.List.Nodup
import Stepwise.Proofs.Reading.Outcome

/-!
# Lines and snippets

A text consists of its lines, with newlines between them only.  A snippet shows some lines of a text, each
with its number, and is itself a text that consists of what it shows: splitting it at newlines gives the shown
lines back, and the one with the mark is found among them.

The snippet around a position shows the lines around the one that the position is in.  `extent` counts the
characters before a line, so it says where the line starts.
-/

namespace Stepwise

/-! ## Lines -/

namespace Text

theorem splitAtMark_eq_splitOn (mark : Char) (chars : List Char) :
    splitAtMark mark chars = chars.splitOn mark := by
  induction chars with
  | nil => rfl
  | cons c rest ih =>
      rw [splitAtMark, List.splitOn_cons_eq_if_modifyHead, ← ih]
      by_cases same : c = mark
      · rw [if_pos same, if_pos (beq_iff_eq.mpr same)]
      · rw [if_neg same, if_neg (mt beq_iff_eq.mp same)]
        have some : splitAtMark mark rest ≠ [] := ih ▸ List.splitOn_ne_nil mark rest
        cases pieces : splitAtMark mark rest with
        | nil => exact absurd pieces some
        | cons piece others => rfl

theorem not_mem_of_mem_splitAtMark {mark : Char} {piece chars : List Char}
    (member : piece ∈ splitAtMark mark chars) : mark ∉ piece := by
  induction chars generalizing piece with
  | nil =>
      rw [List.mem_singleton.mp member]
      exact List.not_mem_nil
  | cons c rest ih =>
      rw [splitAtMark] at member
      split at member
      · rcases List.mem_cons.mp member with rfl | later
        · exact List.not_mem_nil
        · exact ih later
      · next differs =>
          cases pieces : splitAtMark mark rest with
          | nil =>
              rw [pieces] at member
              rw [List.mem_singleton.mp member, List.mem_singleton]
              exact Ne.symm differs
          | cons first others =>
              rw [pieces] at member ih
              rcases List.mem_cons.mp member with rfl | later
              · exact List.not_mem_cons_of_ne_of_not_mem (Ne.symm differs) (ih List.mem_cons_self)
              · exact ih (List.mem_cons_of_mem _ later)

theorem toList_newline : "\n".toList = ['\n'] :=
  rfl

/-- The text consists of the given lines, with newlines between them only. -/
structure ConsistsOf (text : String) (lines : List String) : Prop where
  joined : "\n".intercalate lines = text
  nonempty : lines ≠ []
  unbroken : ∀ line ∈ lines, '\n' ∉ line.toList

theorem consistsOf_lines (text : String) : ConsistsOf text (lines text) where
  joined := by
    rw [← String.toList_inj, String.toList_intercalate, toList_newline, lines, splitAt, List.map_map,
      splitAtMark_eq_splitOn]
    simp only [Function.comp_def, String.toList_ofList, List.map_id']
    exact List.intercalate_splitOn '\n'
  nonempty := by
    rw [lines, splitAt, splitAtMark_eq_splitOn]
    exact List.map_eq_nil_iff.not.mpr (List.splitOn_ne_nil _ _)
  unbroken line member := by
    obtain ⟨piece, isPiece, rfl⟩ := List.mem_map.mp member
    rw [String.toList_ofList]
    exact not_mem_of_mem_splitAtMark isPiece

/-- Lines that are joined by newlines are the lines of the text that this gives. -/
theorem lines_intercalate {pieces : List String} (some : pieces ≠ [])
    (inside : ∀ line ∈ pieces, '\n' ∉ line.toList) : lines ("\n".intercalate pieces) = pieces := by
  rw [lines, splitAt, splitAtMark_eq_splitOn, String.toList_intercalate, toList_newline,
    List.splitOn_intercalate '\n' (List.forall_mem_map.mpr inside) (List.map_eq_nil_iff.not.mpr some),
    List.map_map]
  simp [Function.comp_def]

/-- There is only one way to divide a text into lines. -/
theorem ConsistsOf.eq_lines {text : String} {pieces : List String} (consists : ConsistsOf text pieces) :
    pieces = lines text := by
  rw [← consists.joined, lines_intercalate consists.nonempty consists.unbroken]

/-- How many characters some lines take up, each with a newline behind it. -/
def extent (lines : List String) : Nat :=
  lines.foldr (fun line rest => line.length + 1 + rest) 0

theorem extent_cons (line : String) (rest : List String) :
    extent (line :: rest) = line.length + 1 + extent rest :=
  rfl

/-- The marks before a position tell which piece it is in.  The induction is on the characters: in front of the
pieces comes an empty one, or the first of them gets longer. -/
theorem splitAtMark_around (mark : Char) {chars : List Char} {position : Nat} (within : position ≤ chars.length) :
    ∃ piece, (splitAtMark mark chars)[(chars.take position).count mark]? = some piece ∧
      extent (((splitAtMark mark chars).take ((chars.take position).count mark)).map String.ofList) ≤ position ∧
      position ≤ extent (((splitAtMark mark chars).take ((chars.take position).count mark)).map String.ofList) +
        piece.length := by
  induction chars generalizing position with
  | nil =>
      obtain rfl : position = 0 := Nat.le_zero.mp within
      exact ⟨[], rfl, Nat.le_refl _, Nat.le_refl _⟩
  | cons c rest ih =>
      cases position with
      | zero =>
          obtain ⟨piece, there⟩ : ∃ piece, (splitAtMark mark (c :: rest))[0]? = some piece :=
            ⟨_, List.getElem?_eq_getElem (by rw [Source.length_splitAtMark]; exact Nat.succ_pos _)⟩
          exact ⟨piece, there, Nat.le_refl _, Nat.zero_le _⟩
      | succ position =>
          obtain ⟨piece, there, above, below⟩ := ih (Nat.le_of_succ_le_succ within)
          rw [List.take_succ_cons, splitAtMark]
          by_cases same : c = mark
          · rw [if_pos same, same, List.count_cons_self, List.getElem?_cons_succ, List.take_succ_cons,
              List.map_cons, extent_cons, String.length_ofList, List.length_nil]
            exact ⟨piece, there, by omega, by omega⟩
          · rw [if_neg same, List.count_cons_of_ne same]
            cases pieces : splitAtMark mark rest with
            | nil => simp [pieces] at there
            | cons first others =>
                rw [pieces] at there above below
                dsimp only
                generalize (rest.take position).count mark = marks at there above below ⊢
                cases marks with
                | zero =>
                    obtain rfl : first = piece := Option.some.inj there
                    exact ⟨c :: first, rfl, Nat.zero_le _, by simpa [extent] using below⟩
                | succ marks =>
                    rw [List.take_succ_cons, List.map_cons, extent_cons, String.length_ofList] at above below ⊢
                    rw [List.length_cons]
                    exact ⟨piece, there, by omega, by omega⟩

end Text

/-! ## Snippets -/

namespace Source

/-- Whether a line of a snippet has the mark. -/
def isMarked (line : String) : Bool :=
  ['-', '>', ' '].isPrefixOf line.toList

/-- The number of a line of a snippet, which stands behind three characters. -/
def shownNumber (line : String) : Nat :=
  Nat.ofDigitChars 10 ((line.toList.drop 3).takeWhile Char.isDigit) 0

/-- The numbers of the marked lines of a snippet. -/
def markedNumbers (snippet : String) : List Nat :=
  ((Text.lines snippet).filter isMarked).map shownNumber

theorem toList_snippetLine (marked : Bool) (number : Nat) (text : String) :
    (snippetLine marked number text).toList =
      (if marked then ['-', '>', ' '] else [' ', ' ', ' ']) ++
        (Nat.toDigits 10 number ++ ':' :: ' ' :: text.toList) := by
  cases marked <;> simp [snippetLine]

theorem isMarked_snippetLine (marked : Bool) (number : Nat) (text : String) :
    isMarked (snippetLine marked number text) = marked := by
  rw [isMarked, toList_snippetLine]
  cases marked <;> rfl

theorem shownNumber_snippetLine (marked : Bool) (number : Nat) (text : String) :
    shownNumber (snippetLine marked number text) = number := by
  have behind : (snippetLine marked number text).toList.drop 3 =
      Nat.toDigits 10 number ++ ':' :: ' ' :: text.toList := by
    rw [toList_snippetLine]
    cases marked <;> rfl
  have digits : ∀ c ∈ Nat.toDigits 10 number, c.isDigit = true :=
    (Number.isNumeral_toDigits number).digits
  rw [shownNumber, behind, List.takeWhile_append_of_pos digits, List.takeWhile_cons_of_neg (by decide),
    List.append_nil, Nat.ofDigitChars_ten_toDigits]

theorem newline_not_mem_snippetLine (marked : Bool) (number : Nat) {text : String}
    (inside : '\n' ∉ text.toList) : '\n' ∉ (snippetLine marked number text).toList := by
  have digits : '\n' ∉ Nat.toDigits 10 number := Number.not_mem_toDigits rfl number
  rw [toList_snippetLine]
  cases marked <;> simp [digits, inside]

/-- How the line with a number is shown when another one or itself is marked. -/
def shownLine (lines : List String) (marked number : Nat) : String :=
  snippetLine (number == marked) number (lines.getD (number - 1) "")

theorem newline_not_mem_shownLine {text : String} {lines : List String} (consists : Text.ConsistsOf text lines)
    (marked number : Nat) : '\n' ∉ (shownLine lines marked number).toList := by
  refine newline_not_mem_snippetLine _ _ ?_
  rw [List.getD_eq_getElem?_getD]
  cases there : lines[number - 1]? with
  | none => exact List.not_mem_nil
  | some line => exact consists.unbroken line (List.mem_of_getElem? there)

theorem map_snippetLine {lines : List String} {start stop : Nat} (within : stop ≤ lines.length) (line : Nat) :
    (((lines.zipIdx 1).take stop).drop start).map
        (fun (text, number) => snippetLine ((number : Int) == (line : Int)) number text) =
      (List.range' (start + 1) (stop - start)).map (shownLine lines line) := by
  apply List.ext_getElem
  · simp only [List.length_map, List.length_drop, List.length_take, List.length_zipIdx, List.length_range']
    omega
  · intro place _ inRange
    simp only [List.length_map, List.length_range'] at inRange
    have there : lines.getD (start + place) "" = lines[start + place] :=
      (List.getElem_eq_getD "").symm
    have same : (((1 + (start + place) : Nat) : Int) == (line : Int)) = (1 + (start + place) == line) := by
      rw [Bool.eq_iff_iff, beq_iff_eq, beq_iff_eq, Int.natCast_inj]
    simp only [List.getElem_map, List.getElem_drop, List.getElem_take, List.getElem_zipIdx,
      List.getElem_range', shownLine, Nat.one_mul, same]
    rw [show start + 1 + place = 1 + (start + place) by omega, Nat.add_sub_cancel_left, there]

/-- The numbers of the lines that the snippet around a line of the text shows. -/
def shownNumbers (lines : List String) (line window : Nat) : List Nat :=
  let first := max 1 (line - window)
  let last := min lines.length (line + window)
  List.range' first (last + 1 - first)

section Shown

variable {source : String} {line : Nat} (positive : 0 < line) (within : line ≤ (Text.lines source).length)
include positive within

theorem mem_shownNumbers (window : Nat) : line ∈ shownNumbers (Text.lines source) line window := by
  rw [shownNumbers, List.mem_range'_1]
  omega

theorem snippet_eq (window : Nat) :
    snippet source line window = "\n".intercalate
      ((shownNumbers (Text.lines source) line window).map (shownLine (Text.lines source) line)) := by
  simp only [snippet, shownNumbers]
  generalize Text.lines source = lines at within ⊢
  have isStart : ((line : Int) - window - 1).toNat + 1 = max 1 (line - window) := by omega
  have isStop : (min (lines.length : Int) (line + window)).toNat = min lines.length (line + window) := by omega
  have count : min lines.length (line + window) - ((line : Int) - window - 1).toNat =
      min lines.length (line + window) + 1 - max 1 (line - window) := by omega
  rw [isStop, map_snippetLine (Nat.min_le_left _ _) line, isStart, count]

theorem consistsOf_snippet (window : Nat) :
    Text.ConsistsOf (snippet source line window)
      ((shownNumbers (Text.lines source) line window).map (shownLine (Text.lines source) line)) where
  joined := (snippet_eq positive within window).symm
  nonempty := List.map_eq_nil_iff.not.mpr (List.ne_nil_of_mem (mem_shownNumbers positive within window))
  unbroken := List.forall_mem_map.mpr fun number _ =>
    newline_not_mem_shownLine (Text.consistsOf_lines source) line number

/-- The snippet around a line of the text marks this line and no other. -/
theorem filter_isMarked_snippet (window : Nat) :
    ((shownNumbers (Text.lines source) line window).map (shownLine (Text.lines source) line)).filter isMarked =
      [shownLine (Text.lines source) line line] := by
  have once : (shownNumbers (Text.lines source) line window).count line = 1 :=
    List.count_eq_one_of_mem List.nodup_range' (mem_shownNumbers positive within window)
  have marks : isMarked ∘ shownLine (Text.lines source) line = (· == line) :=
    funext fun number => isMarked_snippetLine _ number _
  rw [List.filter_map, marks, List.filter_beq, once]
  rfl

theorem markedNumbers_snippet (window : Nat) : markedNumbers (snippet source line window) = [line] := by
  rw [markedNumbers, ← (consistsOf_snippet positive within window).eq_lines,
    filter_isMarked_snippet positive within window]
  exact congrArg (fun number => [number]) (shownNumber_snippetLine _ _ _)

end Shown

theorem shownLine_eq (lines : List String) (marked number : Nat) :
    shownLine lines marked number =
      (if number = marked then "-> " else "   ") ++ toString number ++ ": " ++ lines.getD (number - 1) "" := by
  by_cases same : number = marked <;> simp [shownLine, snippetLine, same]

/-! ## Positions -/

theorem lineNumber_eq (source : String) (position : Nat) :
    lineNumber source position = (source.toList.take position).count '\n' + 1 := by
  rw [lineNumber, before_natCast]

/-- A position lies in the line with its number, or at the end of this line. -/
theorem position_in_line {source : String} {position : Nat} (within : position ≤ source.length) :
    let newlines := (source.toList.take position).count '\n'
    Text.extent ((Text.lines source).take newlines) ≤ position ∧
      position ≤ Text.extent ((Text.lines source).take newlines) +
        ((Text.lines source).getD newlines "").length := by
  rw [← String.length_toList] at within
  obtain ⟨piece, there, above, below⟩ := Text.splitAtMark_around '\n' within
  intro newlines
  rw [Text.lines, Text.splitAt, ← List.map_take, List.getD_eq_getElem?_getD, List.getElem?_map, there]
  exact ⟨above, by simpa using below⟩

theorem markedNumbers_snippetAt (source : String) (position : Int) (window : Nat) :
    markedNumbers (snippetAt source position window) = [lineNumber source position] :=
  markedNumbers_snippet (Nat.succ_pos _) (lineNumber_le_length_lines source position) window

/-- The snippet around a line is the one around a position in it, unless the text is empty: then there is only
the latter. -/
theorem context_eq_snippetAt_iff (source : String) (position : Int) (window : Nat) :
    context (some source) (lineNumber source position) window = snippetAt source position window ↔
      source ≠ "" := by
  rw [context]
  by_cases empty : source = ""
  · have marks := markedNumbers_snippetAt source position window
    have unmarked : markedNumbers "" = [] := rfl
    rw [if_pos (beq_iff_eq.mpr empty)]
    refine iff_of_false (fun same => ?_) (not_not_intro empty)
    rw [← same, unmarked] at marks
    cases marks
  · rw [if_neg (mt beq_iff_eq.mp empty)]
    exact iff_of_true rfl empty

/-- The snippet around a position.  Its lines are those of the text from `window` lines before the position's
line to `window` lines after it, as far as there are such, each with its number.  The position's line has the
mark and no other line has it, and the position lies in this line or at its end.  The snippet around this line
is the same text, unless there is no text. -/
theorem snippetAt_shows_around {source : String} {position : Nat} (within : position ≤ source.length)
    (window : Nat) :
    let line := (source.toList.take position).count '\n' + 1
    ∃ lines shown : List String,
      let first := max 1 (line - window)
      let last := min lines.length (line + window)
      let start := Text.extent (lines.take (line - 1))
      Text.ConsistsOf source lines ∧ Text.ConsistsOf (snippetAt source position window) shown ∧
      (first ≤ line ∧ line ≤ last ∧ shown = (List.range' first (last + 1 - first)).map fun number =>
        (if number = line then "-> " else "   ") ++ toString number ++ ": " ++ lines.getD (number - 1) "") ∧
      shown.filter isMarked = ["-> " ++ toString line ++ ": " ++ lines.getD (line - 1) ""] ∧
      (start ≤ position ∧ position ≤ start + (lines.getD (line - 1) "").length) ∧
      (context (some source) line window = snippetAt source position window ↔ source ≠ "") := by
  intro line
  have isLine : lineNumber source position = line := lineNumber_eq source position
  have positive : 0 < line := Nat.succ_pos _
  have inText : line ≤ (Text.lines source).length := isLine ▸ lineNumber_le_length_lines source position
  have same := context_eq_snippetAt_iff source position window
  rw [snippetAt, isLine] at same ⊢
  have shows : shownLine (Text.lines source) line = fun number =>
      (if number = line then "-> " else "   ") ++ toString number ++ ": " ++
        (Text.lines source).getD (number - 1) "" :=
    funext (shownLine_eq _ _)
  have marked := filter_isMarked_snippet positive inText window
  rw [shownLine_eq _ line line, if_pos rfl] at marked
  refine ⟨Text.lines source, _, Text.consistsOf_lines source, consistsOf_snippet positive inText window,
    ⟨by omega, by omega, ?_⟩, marked, position_in_line within, same⟩
  rw [shownNumbers, shows]

/-- The second line of three, with one line before and one behind it. -/
theorem snippetAt_shows_around_middle :
    3 ≤ "a\nbc\nd".length ∧
      ∃ shown, Text.ConsistsOf (snippetAt "a\nbc\nd" 3 1) shown ∧
        shown = ["   1: a", "-> 2: bc", "   3: d"] ∧ shown.filter isMarked = ["-> 2: bc"] := by
  have within : 3 ≤ "a\nbc\nd".length := by decide
  obtain ⟨lines, shown, consists, shows, ⟨-, -, isShown⟩, marked, -⟩ := snippetAt_shows_around within 1
  obtain rfl : lines = ["a", "bc", "d"] := consists.eq_lines
  exact ⟨within, shown, shows, isShown, marked⟩

end Source

end Stepwise
