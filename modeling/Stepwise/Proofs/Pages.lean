import Stepwise.Proofs.Cells
import Stepwise.Proofs.Reading.Snippets

/-!
# Snippets on error pages

A page takes a snippet apart again and shows a code line for each of its lines, in order and with its number.
The mark is looked for anywhere in a line, and of a line with the mark only what stands before the second colon
is shown.  So a page shows a snippet as it is if and only if the text of the marked line has no colon, and the
texts of the other lines do not have the mark in them.
-/

namespace Stepwise

/-! ## Cutting and trimming -/

namespace Text

theorem splitAtMark_append {mark : Char} {front : List Char} (outside : mark ∉ front) (rest : List Char) :
    splitAtMark mark (front ++ mark :: rest) = front :: splitAtMark mark rest := by
  induction front with
  | nil => simp [splitAtMark]
  | cons c front ih =>
      have other : c ≠ mark := Ne.symm (List.ne_of_not_mem_cons outside)
      rw [List.cons_append, splitAtMark, if_neg other, ih (List.not_mem_of_not_mem_cons outside)]

theorem splitAtMark_eq_cons (mark : Char) (chars : List Char) :
    ∃ rest, splitAtMark mark chars = chars.takeWhile (· != mark) :: rest := by
  induction chars with
  | nil => exact ⟨[], rfl⟩
  | cons c chars ih =>
      obtain ⟨rest, same⟩ := ih
      rw [splitAtMark, same]
      by_cases isMark : c = mark
      · rw [if_pos isMark, List.takeWhile_cons_of_neg (by simpa using isMark)]
        exact ⟨_, rfl⟩
      · rw [if_neg isMark, List.takeWhile_cons_of_pos (by simpa using isMark)]
        exact ⟨_, rfl⟩

theorem cutAt_eq {mark : Char} {text : String} {front rest : List Char}
    (same : text.toList = front ++ mark :: rest) (outside : mark ∉ front) :
    cutAt mark text = some (String.ofList front, String.ofList rest) := by
  have passed : ∀ c ∈ front, (c != mark) = true := fun c member =>
    bne_iff_ne.mpr fun isMark => outside (isMark ▸ member)
  have isFront : text.toList.takeWhile (· != mark) = front := by
    rw [same, List.takeWhile_append_of_pos passed, List.takeWhile_cons_of_neg (by simp), List.append_nil]
  simp only [cutAt, isFront]
  rw [same, List.drop_left]

theorem hasInfix_iff {needle chars : List Char} : hasInfix needle chars = true ↔ needle <:+: chars := by
  induction chars with
  | nil => rw [hasInfix, List.isEmpty_iff, List.infix_nil]
  | cons c rest ih => rw [hasInfix, Bool.or_eq_true, ih, List.isPrefixOf_iff_prefix, List.infix_cons_iff]

theorem infix_append_iff {c : Char} {needle front chars : List Char} (outside : c ∉ front) :
    c :: needle <:+: front ++ chars ↔ c :: needle <:+: chars := by
  induction front with
  | nil => rfl
  | cons d front ih =>
      have other : c ≠ d := List.ne_of_not_mem_cons outside
      rw [List.cons_append, List.infix_cons_iff, ih (List.not_mem_of_not_mem_cons outside),
        List.cons_prefix_cons]
      simp [other]

theorem withoutPair_eq_self {first second : Char} {chars : List Char} (outside : first ∉ chars) :
    withoutPair first second chars = chars := by
  fun_induction withoutPair first second chars with
  | case1 => rfl
  | case2 => rfl
  | case3 c d rest both ih => simp_all
  | case4 c d rest apart ih => rw [ih (List.not_mem_of_not_mem_cons outside)]

theorem trimBlanks_space (chars : List Char) : trimBlanks (' ' :: chars) = trimBlanks chars := by
  rw [trimBlanks, List.dropWhile_cons_of_pos rfl, trimBlanks]

theorem isBlank_of_isDigit {c : Char} (digit : c.isDigit = true) : isBlank c = false := by
  obtain ⟨low, high⟩ := Char.isDigit_iff_toNat.mp digit
  have least : 48 ≤ c.toNat := low
  have greatest : c.toNat ≤ 57 := high
  simp only [isBlank, Bool.or_eq_false_iff, Bool.and_eq_false_iff, decide_eq_false_iff_not, beq_eq_false_iff_ne]
  omega

/-- Characters of which neither the first nor the last is blank stay as they are. -/
theorem trimBlanks_eq_self {chars : List Char} (starts : ∀ c ∈ chars.head?, isBlank c = false)
    (ends : ∀ c ∈ chars.getLast?, isBlank c = false) : trimBlanks chars = chars := by
  have kept {chars : List Char} (starts : ∀ c ∈ chars.head?, isBlank c = false) :
      chars.dropWhile isBlank = chars := by
    cases chars with
    | nil => rfl
    | cons c rest => exact List.dropWhile_cons_of_neg (by simp [starts c rfl])
  rw [trimBlanks, kept starts, kept (by rwa [List.head?_reverse]), List.reverse_reverse]

theorem mem_of_mem_trimBlanks {c : Char} {chars : List Char} (member : c ∈ trimBlanks chars) : c ∈ chars := by
  have inner := (List.dropWhile_sublist _).mem (List.mem_reverse.mp member)
  exact (List.dropWhile_sublist _).mem (List.mem_reverse.mp inner)

theorem mem_trimBlanks {c : Char} {chars : List Char} (member : c ∈ chars) (solid : isBlank c = false) :
    c ∈ trimBlanks chars := by
  have kept {chars : List Char} (member : c ∈ chars) : c ∈ chars.dropWhile isBlank := by
    rw [← List.takeWhile_append_dropWhile (p := isBlank) (l := chars)] at member
    rcases List.mem_append.mp member with dropped | kept
    · rw [List.mem_takeWhile_imp dropped] at solid
      cases solid
    · exact kept
  exact List.mem_reverse.mpr (kept (List.mem_reverse.mpr (kept member)))

end Text

/-! ## Code lines -/

namespace Notebook.CodeLine

/-- The code line that shows a line of a snippet with the whole of its text.  The number of the marked line
stands behind a blank. -/
def faithful (isMarked : Bool) (number : Nat) (text : String) : CodeLine :=
  if isMarked then .marked (" " ++ toString number) (Text.trim text)
  else .plain (toString number) (Text.trim text)

/-- The code line that a page has for a line of a snippet.  A line that has the mark, be it in its text, counts
as marked, and its text is shown up to its first colon. -/
def shown (isMarked : Bool) (number : Nat) (text : String) : CodeLine :=
  if isMarked || Text.occursIn mark text then
    .marked ((if isMarked then " " else "") ++ toString number)
      (String.ofList (Text.trimBlanks (text.toList.takeWhile (· != ':'))))
  else .plain (toString number) (Text.trim text)

theorem ofMarked_eq {line : String} {front rest : List Char} (same : line.toList = front ++ ':' :: rest)
    (outside : ':' ∉ front) :
    ofMarked line = .marked (String.ofList (Text.withoutPair '-' '>' (Text.trimBlanks front)))
      (String.ofList (Text.trimBlanks (rest.takeWhile (· != ':')))) := by
  obtain ⟨others, pieces⟩ := Text.splitAtMark_eq_cons ':' rest
  rw [ofMarked, Text.splitAt, same, Text.splitAtMark_append outside, pieces]
  simp [ofMarked.bare, Text.trim]

/-! A line of a snippet is its mark or three blanks, its number, a colon, a blank and its text. -/

section Snippet

variable (isMarked : Bool) (number : Nat) (text : String)

/-- What stands before the first colon of a line of a snippet. -/
def heading : List Char :=
  (if isMarked then ['-', '>', ' '] else [' ', ' ', ' ']) ++ Nat.toDigits 10 number

theorem toList_snippetLine_eq : (Source.snippetLine isMarked number text).toList =
    heading isMarked number ++ ':' :: ' ' :: text.toList := by
  rw [Source.toList_snippetLine, heading, List.append_assoc]

theorem colon_not_mem_heading : ':' ∉ heading isMarked number := by
  have digits : ':' ∉ Nat.toDigits 10 number := Number.not_mem_toDigits rfl number
  rw [heading]
  cases isMarked <;> simp [digits]

theorem trimBlanks_heading : Text.trimBlanks (heading isMarked number) =
    (if isMarked then ['-', '>', ' '] else []) ++ Nat.toDigits 10 number := by
  have numeral := Number.isNumeral_toDigits number
  have solid (c : Char) (member : c ∈ Nat.toDigits 10 number) : Text.isBlank c = false :=
    Text.isBlank_of_isDigit (numeral.digits c member)
  have ends (c : Char) (last : c ∈ (Nat.toDigits 10 number).getLast?) : Text.isBlank c = false :=
    solid c (List.mem_of_getLast? last)
  cases isMarked with
  | true =>
      refine Text.trimBlanks_eq_self (by rintro _ ⟨⟩; rfl) ?_
      rwa [heading, List.getLast?_append_of_ne_nil _ numeral.some]
  | false =>
      have isHeading : heading false number = ' ' :: ' ' :: ' ' :: Nat.toDigits 10 number := rfl
      rw [isHeading, Text.trimBlanks_space, Text.trimBlanks_space, Text.trimBlanks_space]
      exact Text.trimBlanks_eq_self (fun c first => solid c (List.mem_of_head? first)) ends

theorem withoutPair_heading : Text.withoutPair '-' '>' (Text.trimBlanks (heading isMarked number)) =
    (if isMarked then [' '] else []) ++ Nat.toDigits 10 number := by
  have digits : '-' ∉ Nat.toDigits 10 number := Number.not_mem_toDigits rfl number
  rw [trimBlanks_heading]
  cases isMarked with
  | true =>
      have removed : Text.withoutPair '-' '>' ('-' :: '>' :: ' ' :: Nat.toDigits 10 number) =
          Text.withoutPair '-' '>' (' ' :: Nat.toDigits 10 number) := rfl
      exact removed.trans (Text.withoutPair_eq_self (by simp [digits]))
  | false => exact Text.withoutPair_eq_self digits

/-- A line has the mark if it is the marked one, or if its text has the mark in it. -/
theorem occursIn_snippetLine : Text.occursIn mark (Source.snippetLine isMarked number text) =
    (isMarked || Text.occursIn mark text) := by
  have isMark : mark.toList = ['-', '>'] := rfl
  rw [Bool.eq_iff_iff, Bool.or_eq_true, Text.occursIn, Text.occursIn, isMark, Text.hasInfix_iff,
    Text.hasInfix_iff, toList_snippetLine_eq]
  cases isMarked with
  | true =>
      have starts : ['-', '>'] <+: heading true number ++ ':' :: ' ' :: text.toList := ⟨_, rfl⟩
      exact iff_of_true starts.isInfix (.inl rfl)
  | false =>
      have outside : '-' ∉ heading false number ++ [':', ' '] := by
        have digits : '-' ∉ Nat.toDigits 10 number := Number.not_mem_toDigits rfl number
        simp [heading, digits]
      rw [show heading false number ++ ':' :: ' ' :: text.toList =
        (heading false number ++ [':', ' ']) ++ text.toList by simp, Text.infix_append_iff outside]
      simp

theorem ofSnippetLine?_snippetLine :
    ofSnippetLine? (Source.snippetLine isMarked number text) = some (shown isMarked number text) := by
  have isLine := toList_snippetLine_eq isMarked number text
  have outside := colon_not_mem_heading isMarked number
  rw [ofSnippetLine?, occursIn_snippetLine, shown]
  split
  · have goesOn : (' ' :: text.toList).takeWhile (· != ':') = ' ' :: text.toList.takeWhile (· != ':') :=
      List.takeWhile_cons_of_pos rfl
    have isNumber : String.ofList ((if isMarked then [' '] else []) ++ Nat.toDigits 10 number) =
        (if isMarked then " " else "") ++ toString number := by
      rw [← String.toList_inj]
      cases isMarked <;> simp
    rw [ofMarked_eq isLine outside, withoutPair_heading, goesOn, Text.trimBlanks_space, isNumber]
  · next unmarked =>
      obtain ⟨rfl, -⟩ := Bool.or_eq_false_iff.mp (Bool.not_eq_true _ ▸ unmarked)
      have isNumber : Text.trim (String.ofList (heading false number)) = toString number := by
        rw [Text.trim, String.toList_ofList, trimBlanks_heading, ← String.toList_inj]
        simp
      have isCode : Text.trim (String.ofList (' ' :: text.toList)) = Text.trim text := by
        rw [Text.trim, String.toList_ofList, Text.trimBlanks_space, Text.trim]
      rw [Text.cutAt_eq isLine outside, Option.map_some]
      dsimp only
      rw [isNumber, isCode]

theorem trim_before_colon_iff :
    String.ofList (Text.trimBlanks (text.toList.takeWhile (· != ':'))) = Text.trim text ↔
      ':' ∉ text.toList := by
  rw [Text.trim, String.ofList_inj]
  constructor
  · intro same member
    have kept := Text.mem_trimBlanks member (by decide)
    rw [← same] at kept
    exact absurd (List.mem_takeWhile_imp (Text.mem_of_mem_trimBlanks kept)) (by decide)
  · intro outside
    rw [List.takeWhile_eq_self_iff.mpr]
    exact fun c member => bne_iff_ne.mpr fun same => outside (same ▸ member)

/-- The marked line is shown as it is if its text has no colon, and another line if its text does not have the
mark in it. -/
theorem shown_eq_faithful_iff : shown isMarked number text = faithful isMarked number text ↔
    if isMarked then ':' ∉ text.toList else ¬ mark.toList <:+: text.toList := by
  cases isMarked with
  | true => simp [shown, faithful, trim_before_colon_iff]
  | false =>
      rw [← Text.hasInfix_iff, ← Text.occursIn]
      cases found : Text.occursIn mark text <;> simp [shown, faithful, found]

end Snippet

end Notebook.CodeLine

/-! ## Snippets with any window -/

namespace Source

/-- The numbers of the lines that the snippet around a line shows; a window below zero shows none. -/
def numbersAround (lines : List String) (line : Nat) (window : Int) : List Nat :=
  if window < 0 then [] else shownNumbers lines line window.toNat

theorem snippet_of_neg (source : String) (line : Nat) {window : Int} (negative : window < 0) :
    snippet source line window = "" := by
  have nothing : ((((Text.lines source).zipIdx 1).take
      (min ((Text.lines source).length : Int) (line + window)).toNat).drop
        ((line : Int) - window - 1).toNat) = [] := by
    refine List.drop_eq_nil_of_le ((List.length_take_le _ _).trans ?_)
    omega
  rw [snippet, nothing]
  rfl

variable (source : String) (position window : Int)

theorem snippetAt_eq_intercalate :
    snippetAt source position window = "\n".intercalate
      ((numbersAround (Text.lines source) (lineNumber source position) window).map
        (shownLine (Text.lines source) (lineNumber source position))) := by
  rw [snippetAt, numbersAround]
  split
  · next negative => exact snippet_of_neg source _ negative
  · next nonneg =>
      have same : (window.toNat : Int) = window := Int.toNat_of_nonneg (Int.not_lt.mp nonneg)
      conv_lhs => rw [← same]
      exact snippet_eq (Nat.succ_pos _) (lineNumber_le_length_lines source position) window.toNat

end Source

/-! ## Pages -/

namespace Notebook

/-- The part of a page that shows code lines, if there are any. -/
def sourceSection (code : List CodeLine) : List String :=
  if code.isEmpty then []
  else [openBlock 3 "source-code", pageLine 4 "<div class=\"section-title\">Source code:</div>"] ++
    code.flatMap CodeLine.lines ++ [closeBlock 3]

section Snippet

variable (source : String) (position window : Int)

/-- The code lines of the snippet around a position. -/
theorem codeLines_snippetAt :
    codeLines (Source.snippetAt source position window) =
      (Source.numbersAround (Text.lines source) (Source.lineNumber source position) window).map
        fun number => CodeLine.shown (number == Source.lineNumber source position) number
          ((Text.lines source).getD (number - 1) "") := by
  rw [Source.snippetAt_eq_intercalate, codeLines]
  generalize Source.lineNumber source position = line
  generalize Source.numbersAround (Text.lines source) line window = numbers
  by_cases none : numbers = []
  · rw [none]
    rfl
  · have unbroken : ∀ shown ∈ numbers.map (Source.shownLine (Text.lines source) line), '\n' ∉ shown.toList :=
      List.forall_mem_map.mpr fun number _ =>
        Source.newline_not_mem_shownLine (Text.consistsOf_lines source) line number
    rw [Text.lines_intercalate (mt List.map_eq_nil_iff.mp none) unbroken, List.filterMap_map,
      ← List.filterMap_eq_map]
    exact congrArg (numbers.filterMap ·) (funext fun number => CodeLine.ofSnippetLine?_snippetLine _ _ _)

theorem snippetAt_eq_empty_iff : Source.snippetAt source position window = "" ↔
    codeLines (Source.snippetAt source position window) = [] := by
  constructor
  · intro empty
    rw [empty]
    rfl
  · intro none
    rw [codeLines_snippetAt, List.map_eq_nil_iff] at none
    rw [Source.snippetAt_eq_intercalate, none]
    rfl

theorem snippetLines_snippetAt : snippetLines (.str (Source.snippetAt source position window)) =
    .ok (sourceSection (codeLines (Source.snippetAt source position window))) := by
  have isTrue : (Value.str (Source.snippetAt source position window)).isTrue =
      !(codeLines (Source.snippetAt source position window)).isEmpty := by
    rw [Value.isTrue, Bool.eq_iff_iff, bne_iff_ne, Bool.not_eq_true', List.isEmpty_eq_false_iff]
    exact not_congr (snippetAt_eq_empty_iff source position window)
  rw [snippetLines, isTrue, sourceSection]
  cases (codeLines (Source.snippetAt source position window)).isEmpty <;> rfl

end Snippet

/-- A report on a text has the page that it has without its snippet, and below it the lines about the snippet. -/
theorem detailLines_eq_append {message line column token : Value} {snippet : String} {page : List String}
    (made : detailLines (.parsing message line column token (.str snippet)) = .ok page) :
    ∃ above below, detailLines (.parsing message line column token (.str "")) = .ok above ∧
      snippetLines (.str snippet) = .ok below ∧ page = above ++ below := by
  rw [detailLines] at made
  obtain ⟨lineText, isLine, made⟩ := exists_of_bind_eq_ok made
  obtain ⟨columnText, isColumn, made⟩ := exists_of_bind_eq_ok made
  obtain ⟨tokenLine, isToken, made⟩ := exists_of_bind_eq_ok made
  obtain ⟨below, isBelow, made⟩ := exists_of_bind_eq_ok made
  cases made
  refine ⟨_, below, ?_, isBelow, rfl⟩
  rw [detailLines, isLine, isColumn, isToken]
  exact congrArg Except.ok (List.append_nil _)

/-- A page about a snippet around a position, for every report that can be worded.

Below what the page shows without the snippet, it shows one code line for each line of the snippet, in order and
with its number.  These show the whole texts of the lines, and show the marked line and no other as such, if
and only if the text of the marked line has no colon and no other text has the mark in it. -/
theorem page_shows_snippet (source : String) (position window : Int) {message line column token : Value}
    {text : String}
    (worded : (Report.parsing message line column token
      (.str (Source.snippetAt source position window))).text = .ok text) :
    let marked := Source.lineNumber source position
    ∃ (lines : List String) (above : List String) (code : List CodeLine),
      let numbers := Source.numbersAround lines marked window
      let lineText := fun number => lines.getD (number - 1) ""
      Text.ConsistsOf source lines ∧ (0 ≤ window → marked ∈ numbers) ∧
      Source.snippetAt source position window =
        "\n".intercalate (numbers.map fun number =>
          (if number = marked then "-> " else "   ") ++ toString number ++ ": " ++ lineText number) ∧
      detailLines (.parsing message line column token (.str "")) = .ok above ∧
      detailLines (.parsing message line column token (.str (Source.snippetAt source position window))) =
        .ok (above ++ sourceSection code) ∧
      (code = numbers.map fun number => CodeLine.shown (number == marked) number (lineText number)) ∧
      ((code = numbers.map fun number => CodeLine.faithful (number == marked) number (lineText number)) ↔
        ∀ number ∈ numbers, if number = marked then ':' ∉ (lineText number).toList
          else ¬ ['-', '>'] <:+: (lineText number).toList) := by
  intro marked
  obtain ⟨page, made⟩ := detailLines_parsing (Report.sayable_of_text worded)
  obtain ⟨above, below, isAbove, isBelow, rfl⟩ := detailLines_eq_append made
  cases (snippetLines_snippetAt source position window).symm.trans isBelow
  refine ⟨Text.lines source, above, _, Text.consistsOf_lines source, fun nonneg => ?_, ?_, isAbove, made,
    codeLines_snippetAt source position window, ?_⟩
  · rw [Source.numbersAround, if_neg (Int.not_lt.mpr nonneg)]
    exact Source.mem_shownNumbers (Nat.succ_pos _) (Source.lineNumber_le_length_lines source position) _
  · rw [Source.snippetAt_eq_intercalate]
    exact congrArg ("\n".intercalate <| List.map · _) (funext (Source.shownLine_eq _ _))
  · rw [codeLines_snippetAt, List.map_inj_left]
    refine forall₂_congr fun number _ => (CodeLine.shown_eq_faithful_iff _ _ _).trans ?_
    by_cases isMarked : number = marked <;> simp [isMarked, marked, CodeLine.mark]

/-- A page that shows the snippet as it is, for a report that names no place. -/
theorem page_shows_snippet_plain :
    let report := Report.parsing (.str "m") .null .null .null (.str (Source.snippetAt "a:\nb" 3 1))
    (∃ text, report.text = .ok text) ∧
      ∃ above, detailLines report = .ok (above ++ sourceSection [.plain "1" "a:", .marked " 2" "b"]) := by
  intro report
  obtain ⟨text, worded⟩ : ∃ text, report.text = .ok text := ⟨_, rfl⟩
  obtain ⟨lines, above, code, consists, -, -, -, made, -, whole⟩ := page_shows_snippet "a:\nb" 3 1 worded
  obtain rfl : lines = ["a:", "b"] := consists.eq_lines
  refine ⟨⟨text, worded⟩, above, ?_⟩
  rw [made, whole.mpr]
  · rfl
  · decide +kernel

/-- A line with the mark in its text is shown as marked too, and the colon at the end of the marked line is lost. -/
theorem page_cuts_marked_line :
    let snippet := Source.snippetAt "objective \"a -> b\"\nstep \"t\":" 19 2
    snippet = "   1: objective \"a -> b\"\n-> 2: step \"t\":" ∧
      codeLines snippet = [.marked "1" "objective \"a -> b\"", .marked " 2" "step \"t\""] ∧
      codeLines snippet ≠ [.plain "1" "objective \"a -> b\"", .marked " 2" "step \"t\":"] := by
  decide +kernel

end Notebook

end Stepwise
