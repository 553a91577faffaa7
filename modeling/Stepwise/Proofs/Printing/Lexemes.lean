import Mathlib.Data.List.TakeWhile
import Stepwise.Proofs.Printing.Printer

/-!
# Written tokens are lexed as themselves

A token that can be written, followed by a space or by the end of the text, is cut off as one lexeme
and becomes the token again.  A text that is a line of such tokens is therefore lexed as these tokens.
-/

namespace Stepwise

/-- Nothing follows, or a space does. -/
def AtGap (after : List Char) : Prop :=
  ∀ c ∈ after.head?, c = ' '

theorem takeWhile_append_stop {test : Char → Bool} {part after : List Char}
    (every : ∀ c ∈ part, test c = true) (stops : ∀ c ∈ after.head?, test c = false) :
    (part ++ after).takeWhile test = part := by
  rw [List.takeWhile_append_of_pos every]
  cases after with
  | nil => simp
  | cons c more =>
      rw [List.takeWhile_cons_of_neg (by simp [stops c rfl]), List.append_nil]

theorem AtGap.stops {after : List Char} (gap : AtGap after) {test : Char → Bool}
    (space : test ' ' = false) : ∀ c ∈ after.head?, test c = false := by
  intro c member
  rw [gap c member, space]

/-- Written tokens that are lexed as themselves in front of a gap. -/
structure Token.Lexes (token : Token) : Prop where
  starts : ∃ first rest, token.written.toList = first :: rest ∧ isLayout first = false
  cut : ∃ shape, Token.ofLexeme shape token.written.toList = .ok token ∧
    ∀ after, AtGap after →
      lexeme? (token.written.toList ++ after) = some (shape, token.written.toList)

namespace Token

/-! ## Words -/

theorem lexeme?_of_word {word after : List Char} (isWord : Shape.word? word = some word)
    (gap : AtGap after) : lexeme? (word ++ after) = some (.word, word) := by
  cases word with
  | nil => cases isWord
  | cons c rest =>
      rw [Shape.word?] at isWord
      split at isWord
      case isFalse => cases isWord
      case isTrue starts =>
        have continues : ∀ d ∈ rest, Shape.continuesWord d = true := by
          rw [← List.takeWhile_eq_self_iff]
          simpa using isWord
        have whole := takeWhile_append_stop continues (gap.stops rfl)
        simp [lexeme?, Shape.word?, starts, whole]

theorem lexes_word {token : Token} (isWord : Shape.word? token.written.toList =
    some token.written.toList) (same : Token.ofWord token.written = token) : token.Lexes := by
  constructor
  · cases chars : token.written.toList with
    | nil =>
        rw [chars] at isWord
        cases isWord
    | cons c rest =>
        refine ⟨c, rest, rfl, ?_⟩
        rw [chars, Shape.word?] at isWord
        split at isWord
        case isFalse => cases isWord
        case isTrue starts =>
          -- No layout character is a letter or an underscore.
          rw [← Bool.not_eq_true, isLayout]
          intro layout
          simp only [Bool.or_eq_true, beq_iff_eq, or_assoc] at layout
          rcases layout with rfl | rfl | rfl <;> cases starts
  · refine ⟨.word, ?_, fun after gap => lexeme?_of_word isWord gap⟩
    rw [ofLexeme, String.ofList_toList, same]

@[simp] theorem lexes_keyword (reserved : Keyword) : (Token.keyword reserved).Lexes := by
  apply lexes_word <;> cases reserved <;> decide

theorem lexes_truth (holds : Bool) : (Token.truth holds).Lexes := by
  apply lexes_word <;> cases holds <;> decide

theorem lexes_name {word : String} (isName : IsName word) : (Token.name word).Lexes :=
  lexes_word isName.1 isName.2

theorem lexes_variable {word : String} (isVariable : IsVariable word) :
    (Token.ofWord word).Lexes := by
  have cases : Token.ofWord word =
      if word == truthWord true then .truth true
      else if word == truthWord false then .truth false else .name word := by
    rw [Token.ofWord, isVariable.2]
  by_cases isTrue : word = truthWord true
  · rw [cases, isTrue]
    exact lexes_truth true
  · by_cases isFalse : word = truthWord false
    · rw [cases, isFalse]
      exact lexes_truth false
    · have named : Token.ofWord word = .name word := by simp [cases, isTrue, isFalse]
      rw [named]
      exact lexes_name ⟨isVariable.1, named⟩

/-! ## Marks -/

@[simp] theorem lexes_mark (sign : Mark) : (Token.mark sign).Lexes := by
  constructor
  · cases sign <;> exact ⟨_, _, rfl, rfl⟩
  · refine ⟨.mark sign, rfl, ?_⟩
    intro after gap
    cases after with
    | nil => cases sign <;> rfl
    | cons c more =>
        obtain rfl := gap c rfl
        cases sign <;> rfl

/-! ## Quoted texts -/

theorem quoteFor_eq (content : String) : quoteFor content = '"' ∨ quoteFor content = '\'' := by
  rw [quoteFor]
  split
  · exact .inr rfl
  · exact .inl rfl

theorem quoteFor_not_mem {content : String} (quotable : IsQuotable content) :
    quoteFor content ∉ content.toList := by
  rw [quoteFor]
  split
  case isTrue double => exact fun single => quotable ⟨double, single⟩
  case isFalse absent => exact absent

/-- A quote that does not stand in the content is not followed by two more. -/
theorem unquoted_quoted {quote : Char} {content : List Char} (absent : quote ∉ content) :
    unquoted (quote :: (content ++ [quote])) = String.ofList content := by
  have single : ∀ c, [c, c, c].isPrefixOf (quote :: (content ++ [quote])) = false := by
    intro c
    cases content with
    | nil => simp [List.isPrefixOf]
    | cons d more =>
        have differs : quote ≠ d := by
          rintro rfl
          exact absent (List.mem_cons_self ..)
        simp only [List.isPrefixOf, List.cons_append, Bool.and_eq_false_iff, beq_eq_false_iff_ne]
        by_cases same : c = quote
        · exact .inr (.inl (same ▸ differs))
        · exact .inl same
  simp [unquoted, single, withoutEnds]

theorem lexes_text {content : String} (quotable : IsQuotable content) :
    (Token.text content).Lexes := by
  have absent := quoteFor_not_mem quotable
  have chars : (Token.text content).written.toList =
      quoteFor content :: (content.toList ++ [quoteFor content]) := String.toList_ofList
  have isQuote := quoteFor_eq content
  constructor
  · exact ⟨_, _, chars, by rcases isQuote with same | same <;> rw [same] <;> rfl⟩
  · refine ⟨.text, ?_, ?_⟩
    · rw [ofLexeme, chars, unquoted_quoted absent, String.ofList_toList]
    · intro after gap
      rw [chars]
      generalize quoteFor content = quote at absent isQuote
      have noWord : Shape.startsWord quote = false := by
        rcases isQuote with rfl | rfl <;> decide
      have inside : (content.toList ++ quote :: after).takeWhile (· != quote) = content.toList := by
        apply takeWhile_append_stop
        · intro c member
          simp only [bne_iff_ne, ne_eq]
          rintro rfl
          exact absent member
        · rintro c ⟨⟩
          simp
      simp [lexeme?, Shape.word?, noWord, Shape.text?, isQuote, inside]

end Token

/-! ## Lines of tokens -/

/-- What belongs to a lexeme already taken is passed over. -/
theorem lexFrom_skip (skipped after : List Char) (position : Nat) :
    lexFrom skipped.length position (skipped ++ after) =
      lexFrom 0 (position + skipped.length) after := by
  induction skipped generalizing position with
  | nil => rfl
  | cons c rest ih =>
      have next : position + 1 + rest.length = position + (c :: rest).length := by
        rw [List.length_cons]
        omega
      rw [List.length_cons, List.cons_append, lexFrom, ih, next, List.length_cons]

theorem Token.Lexes.lexFrom {token : Token} (lexes : token.Lexes) {after : List Char}
    (gap : AtGap after) (position : Nat) :
    lexFrom 0 position (token.written.toList ++ after) =
      (lexFrom 0 (position + token.written.toList.length) after).cons ⟨token, position⟩ := by
  obtain ⟨first, rest, chars, noLayout⟩ := lexes.starts
  obtain ⟨shape, made, cut⟩ := lexes.cut
  have cut := cut after gap
  rw [chars] at cut made ⊢
  have next : position + (first :: rest).length = position + 1 + rest.length := by
    rw [List.length_cons]
    omega
  rw [next]
  rw [List.cons_append] at cut ⊢
  simp only [Stepwise.lexFrom, noLayout, Bool.false_eq_true, if_false, cut, made,
    List.length_cons, Nat.add_sub_cancel, lexFrom_skip]

theorem lexFrom_line {tokens : List Token} (lexes : ∀ token ∈ tokens, token.Lexes)
    (position : Nat) :
    ∃ placed, lexFrom 0 position (Token.line tokens).toList = ⟨placed, .finished⟩ ∧
      placed.map Placed.token = tokens := by
  induction tokens generalizing position with
  | nil => exact ⟨[], rfl, rfl⟩
  | cons token rest ih =>
      have lexesFirst := lexes token (List.mem_cons_self ..)
      have lexesRest : ∀ other ∈ rest, other.Lexes := fun other member =>
        lexes other (List.mem_cons_of_mem token member)
      cases rest with
      | nil =>
          have alone : (Token.line [token]).toList = token.written.toList ++ [] := by
            rw [Token.line, List.map_cons, List.map_nil, String.intercalate_singleton,
              List.append_nil]
          have gap : AtGap [] := by
            rintro c ⟨⟩
          rw [alone, lexesFirst.lexFrom gap]
          exact ⟨[⟨token, position⟩], rfl, rfl⟩
      | cons second more =>
          have before : (Token.line (token :: second :: more)).toList =
              token.written.toList ++ ' ' :: (Token.line (second :: more)).toList := by
            simp [Token.line, String.intercalate_cons_cons]
          have gap : AtGap (' ' :: (Token.line (second :: more)).toList) := by
            rintro c ⟨⟩
            rfl
          obtain ⟨placed, read, same⟩ :=
            ih lexesRest (position + token.written.toList.length + 1)
          have spaced : lexFrom 0 (position + token.written.toList.length)
              (' ' :: (Token.line (second :: more)).toList) = ⟨placed, .finished⟩ := read
          rw [before, lexesFirst.lexFrom gap, spaced]
          exact ⟨⟨token, position⟩ :: placed, rfl, by rw [List.map_cons, same]⟩

end Stepwise
