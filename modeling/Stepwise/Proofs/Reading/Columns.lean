import Stepwise.Proofs.Reading.Snippets

/-!
# Columns

A text is made up of the lines before a given one, each with its newline, of this line with the newline that
ends it, and of the lines behind it.  Only the last line has no newline.  So a position is where its line
starts plus its distance from there, and this distance says which character of the line it is at.

A column is counted from the last newline before the position, so every line but the first counts its columns
from one.  The first line has no newline before it and counts them from zero.
-/

namespace Stepwise

/-! ## A line among the others -/

namespace Text

/-- Some lines as characters, each with a newline behind it. -/
def closed (lines : List String) : List Char :=
  lines.flatMap fun line => line.toList ++ ['\n']

/-- The characters of the line at a place, with the newline that ends it unless it is the last line. -/
def lineChars (lines : List String) (place : Nat) : List Char :=
  (lines.getD place "").toList ++ if place + 1 < lines.length then ['\n'] else []

theorem closed_cons (line : String) (rest : List String) :
    closed (line :: rest) = line.toList ++ '\n' :: closed rest := by
  simp [closed]

theorem length_closed (lines : List String) : (closed lines).length = extent lines := by
  induction lines with
  | nil => rfl
  | cons line rest ih =>
      rw [closed_cons, extent_cons, List.length_append, List.length_cons, ih, String.length_toList]
      omega

theorem closed_eq_append_newline {lines : List String} (some : lines ≠ []) :
    ∃ front, closed lines = front ++ ['\n'] := by
  rw [← List.dropLast_concat_getLast some, closed, List.flatMap_append, List.flatMap_singleton,
    ← List.append_assoc]
  exact ⟨_, rfl⟩

/-- Backwards from a place in a line comes the part of the line before it, and then a newline or nothing. -/
theorem length_takeWhile_closed (lines : List String) {part : List Char} (unbroken : '\n' ∉ part) :
    ((closed lines ++ part).reverse.takeWhile (· != '\n')).length = part.length := by
  have passed : ∀ c ∈ part.reverse, (c != '\n') = true := fun c member =>
    bne_iff_ne.mpr fun same => unbroken (same ▸ List.mem_reverse.mp member)
  rw [List.reverse_append, List.takeWhile_append_of_pos passed, List.length_append, List.length_reverse,
    Nat.add_eq_left, List.length_eq_zero_iff]
  by_cases first : lines = []
  · rw [first]
    rfl
  · obtain ⟨front, same⟩ := closed_eq_append_newline first
    rw [same, List.reverse_append]
    exact List.takeWhile_cons_of_neg (by decide)

theorem toList_intercalate_cons (line : String) {rest : List String} (some : rest ≠ []) :
    ("\n".intercalate (line :: rest)).toList = line.toList ++ '\n' :: ("\n".intercalate rest).toList := by
  cases rest with
  | nil => exact absurd rfl some
  | cons next others => simp [String.toList_intercalate, toList_newline]

/-- The lines before a place, the line at this place and the lines behind it make up the text. -/
theorem toList_intercalate_lines {lines : List String} {place : Nat} (within : place < lines.length) :
    ("\n".intercalate lines).toList = closed (lines.take place) ++
      (lineChars lines place ++ ("\n".intercalate (lines.drop (place + 1))).toList) := by
  induction lines generalizing place with
  | nil => cases within
  | cons line rest ih =>
      cases place with
      | zero =>
          cases rest with
          | nil => simp [lineChars, closed]
          | cons next others =>
              rw [toList_intercalate_cons line (List.cons_ne_nil _ _)]
              simp [lineChars, closed]
      | succ place =>
          have inRest : place < rest.length := Nat.lt_of_succ_lt_succ within
          have some : rest ≠ [] := List.ne_nil_of_length_pos (Nat.zero_lt_of_lt inRest)
          rw [toList_intercalate_cons line some, ih inRest, List.take_succ_cons, closed_cons,
            List.drop_succ_cons]
          simp [lineChars]

end Text

/-! ## Positions in lines -/

namespace Source

/-- A place in a text: the number of its line, counted from zero, and the distance from where the line
starts. -/
structure PlacedAt (source : String) (position place distance : Nat) : Prop where
  isPlace : (source.toList.take position).count '\n' = place
  inText : place < (Text.lines source).length
  isPosition : Text.extent ((Text.lines source).take place) + distance = position
  inLine : distance ≤ ((Text.lines source).getD place "").length

theorem exists_placedAt {source : String} {position : Nat} (within : position ≤ source.length) :
    ∃ place distance, PlacedAt source position place distance := by
  obtain ⟨starts, ends⟩ := position_in_line within
  have inText := lineNumber_le_length_lines source position
  rw [lineNumber_eq] at inText
  exact ⟨_, _, rfl, inText, Nat.add_sub_cancel' starts, Nat.sub_le_iff_le_add'.mpr ends⟩

namespace PlacedAt

variable {source : String} {position place distance : Nat} (placed : PlacedAt source position place distance)
include placed

theorem lineNumber_eq : lineNumber source position = place + 1 := by
  rw [Source.lineNumber_eq, placed.isPlace]

theorem toList_eq : source.toList = Text.closed ((Text.lines source).take place) ++
    (Text.lineChars (Text.lines source) place ++
      ("\n".intercalate ((Text.lines source).drop (place + 1))).toList) := by
  rw [← Text.toList_intercalate_lines placed.inText, (Text.consistsOf_lines source).joined]

theorem before_eq : before source position = Text.closed ((Text.lines source).take place) ++
    ((Text.lines source).getD place "").toList.take distance := by
  have starts := Text.length_closed ((Text.lines source).take place)
  have inLine := placed.inLine
  rw [← String.length_toList] at inLine
  rw [before_natCast, placed.toList_eq, ← placed.isPosition, ← starts, List.take_length_add_append,
    Text.lineChars, List.append_assoc, List.take_append_of_le_length inLine]

theorem not_mem_take (count : Nat) : '\n' ∉ ((Text.lines source).getD place "").toList.take count := by
  intro member
  have inLine := List.mem_of_mem_take member
  rw [← List.getElem_eq_getD (h := placed.inText) ""] at inLine
  exact (Text.consistsOf_lines source).unbroken _ (List.getElem_mem placed.inText) inLine

/-- The last newline before a position is the one in front of its line.  On the first line there is none, and
the start of the text is taken instead. -/
theorem lastNewline_eq :
    lastNewline source position = Text.extent ((Text.lines source).take place) - 1 := by
  have inLine : (((Text.lines source).getD place "").toList.take distance).length = distance := by
    rw [List.length_take, String.length_toList, Nat.min_eq_left placed.inLine]
  rw [lastNewline, placed.before_eq, Text.length_takeWhile_closed _ (placed.not_mem_take distance),
    List.length_append, inLine, Text.length_closed]
  omega

theorem extent_eq_zero_iff : Text.extent ((Text.lines source).take place) = 0 ↔ place = 0 := by
  have inText := placed.inText
  cases lines : Text.lines source with
  | nil => simp [lines] at inText
  | cons line rest => cases place <;> simp [Text.extent]

/-- The column is the distance from the start of the line, one more on every line but the first. -/
theorem column_eq :
    column source position = ((if lineNumber source position = 1 then 0 else 1 : Nat) + distance : Nat) := by
  have starts := placed.extent_eq_zero_iff
  have isPosition := placed.isPosition
  have isLine := placed.lineNumber_eq
  rw [column, placed.lastNewline_eq]
  split <;> omega

theorem distance_lt (within : position < source.length) :
    distance < (Text.lineChars (Text.lines source) place).length := by
  rw [Text.lineChars, List.length_append, String.length_toList]
  by_cases ended : place + 1 < (Text.lines source).length
  · rw [if_pos ended]
    exact Nat.lt_add_one_of_le placed.inLine
  · have last : ("\n".intercalate ((Text.lines source).drop (place + 1))).toList = [] := by
      rw [List.drop_eq_nil_of_le (Nat.le_of_not_lt ended)]
      rfl
    have length := congrArg List.length placed.toList_eq
    rw [last, List.append_nil, Text.lineChars, if_neg ended, List.append_nil, List.length_append,
      Text.length_closed, String.length_toList, String.length_toList] at length
    have isPosition := placed.isPosition
    rw [if_neg ended, List.length_nil]
    omega

/-- The distance from the start of its line says which character of the line a position is at. -/
theorem getElem?_lineChars (within : position < source.length) :
    (Text.lineChars (Text.lines source) place)[distance]? = source.toList[position]? := by
  have starts := Text.length_closed ((Text.lines source).take place)
  rw [placed.toList_eq, ← placed.isPosition, ← starts, List.getElem?_append_right (Nat.le_add_right _ _),
    Nat.add_sub_cancel_left, List.getElem?_append_left (placed.distance_lt within)]

end PlacedAt

/-! ## Columns -/

/-- The character at a position is the one that stands in its line at the column of the position, if the
columns of a line count from `first`.  The newline that ends a line belongs to it. -/
def CountedFrom (first : Nat) (source : String) (position : Nat) : Prop :=
  let line := lineNumber source position
  ∃ (lines : List String) (c : Char) (distance : Nat), Text.ConsistsOf source lines ∧
    (0 < line ∧ line ≤ lines.length) ∧ source.toList[position]? = some c ∧
    column source position = first + distance ∧
    Text.extent (lines.take (line - 1)) + distance = position ∧
    (Text.lineChars lines (line - 1))[distance]? = some c

theorem countedFrom_iff {source : String} {position : Nat} (within : position < source.length) (first : Nat) :
    CountedFrom first source position ↔ first = if lineNumber source position = 1 then 0 else 1 := by
  obtain ⟨place, distance, placed⟩ := exists_placedAt (Nat.le_of_lt within)
  have isColumn := placed.column_eq
  generalize (if lineNumber source position = 1 then 0 else 1) = shift at isColumn ⊢
  rw [CountedFrom, placed.lineNumber_eq, isColumn]
  constructor
  · rintro ⟨lines, c, counted, consists, -, -, isCounted, isPosition, -⟩
    cases consists.eq_lines
    have starts := placed.isPosition
    rw [Nat.add_sub_cancel] at isPosition
    omega
  · rintro rfl
    obtain ⟨c, there⟩ : ∃ c, source.toList[position]? = some c :=
      ⟨_, List.getElem?_eq_getElem (by rwa [String.length_toList])⟩
    exact ⟨_, c, distance, Text.consistsOf_lines source, ⟨Nat.succ_pos _, placed.inText⟩, there,
      Int.natCast_add _ _, placed.isPosition, (placed.getElem?_lineChars within).trans there⟩

/-- Columns count from one on every line but the first, and from zero on the first line. -/
theorem column_counts_from_one {source : String} {position : Nat} (within : position < source.length) :
    (CountedFrom 1 source position ↔ lineNumber source position ≠ 1) ∧
      (CountedFrom 0 source position ↔ lineNumber source position = 1) := by
  rw [countedFrom_iff within, countedFrom_iff within]
  split <;> simp [*]

/-- The newline at the end of the second line, and the first character of the text. -/
theorem column_counts_from_one_newline :
    (3 < "a\nb\nc".length ∧ CountedFrom 1 "a\nb\nc" 3) ∧
      0 < "a\nb\nc".length ∧ CountedFrom 0 "a\nb\nc" 0 :=
  ⟨⟨by decide, (column_counts_from_one (by decide)).1.mpr (by decide)⟩,
    by decide, (column_counts_from_one (by decide)).2.mpr (by decide)⟩

/-- In the first line the character in the first column is not the first one. -/
theorem first_line_not_from_one :
    lineNumber "ab" 1 = 1 ∧ column "ab" 1 = 1 ∧ "ab".toList[1]? = some 'b' ∧
      (Text.lineChars (Text.lines "ab") 0)[1 - 1]? = some 'a' ∧ ¬ CountedFrom 1 "ab" 1 := by
  refine ⟨rfl, rfl, rfl, rfl, ?_⟩
  rw [countedFrom_iff (by decide)]
  decide

end Source

end Stepwise
