import Mathlib.Data.Nat.Digits.Defs
import Stepwise.Proofs.Lexemes.Rules

/-!
# Lexing as a relation

`Shape.Gives` says which token a lexeme stands for, and `Scans` how a text is gone through: layout is
passed over, a lexeme gives its token, and the end is the end of the text, a character with which no
lexeme begins, or an integer with too many digits.  The relation is about the rules for lexemes only, and
it is what lexing computes (`scans_iff`).
-/

namespace Stepwise

open Number

variable {lexeme chars rest : List Char} {shape : Shape} {token : Token} {position : Nat}
  {lexed : Lexed}

/-! ## The token of a lexeme -/

/-- The value of a digit of any script. -/
def Number.digitValue (c : Char) : Nat :=
  (Text.decimalValue? c).getD 0

/-- The number that a run of digits stands for, the last of which are the ones. -/
def Number.placeValue (whole : List Char) : Nat :=
  Nat.ofDigits 10 (whole.reverse.map digitValue)

/-- The token that a lexeme of a shape stands for. -/
inductive Shape.Gives : Shape → List Char → Token → Prop where
  | keyword (reserved : Keyword) : Gives .word reserved.word.toList (.keyword reserved)
  | truth (holds : Bool) : Gives .word (Token.truthWord holds).toList (.truth holds)
  | name {lexeme : List Char} : (∀ reserved : Keyword, lexeme ≠ reserved.word.toList) →
      (∀ holds, lexeme ≠ (Token.truthWord holds).toList) →
      Gives .word lexeme (.name (String.ofList lexeme))
  | text {quote : Char} {content : List Char} : quote ∉ content →
      Gives .text (quote :: (content ++ [quote])) (.text (String.ofList content))
  | float {lexeme : List Char} {x : Float} : readFloat (String.ofList lexeme) = .ok x →
      Gives .float lexeme (.float x)
  | positive {whole : List Char} : Digits whole → whole.length ≤ Value.maxDigits →
      Gives .int whole (.int (placeValue whole))
  | negative {whole : List Char} : Digits whole → whole.length ≤ Value.maxDigits →
      Gives .int ('-' :: whole) (.int (-placeValue whole))
  | mark (sign : Mark) : Gives (.mark sign) sign.symbol.toList (.mark sign)

theorem Number.digitValue_latin {c : Char} (digit : Text.isDecimalDigit c = true) :
    (latin c).toNat - '0'.toNat = digitValue c := by
  obtain ⟨first, _, ⟨low, high⟩, known⟩ := exists_first_of_isDecimalDigit digit
  have all : ∀ value < 10, (Text.digitChar value).toNat - '0'.toNat = value := by decide
  rw [latin, digitValue, known]
  exact all _ (by omega)

theorem Number.digitsValue_eq_placeValue {whole : List Char} (digits : Digits whole) :
    digitsValue (whole.map latin) = placeValue whole := by
  have step : ∀ value, (whole.map latin).foldl
      (fun value digit => 10 * value + (digit.toNat - '0'.toNat)) value =
        (whole.map digitValue).foldl (fun value digit => digit + 10 * value) value := by
    induction whole with
    | nil => exact fun _ => rfl
    | cons c rest ih =>
        intro value
        have same := digitValue_latin (digits c (List.mem_cons_self ..))
        rw [List.map_cons, List.foldl_cons, ih fun d member => digits d (List.mem_cons_of_mem _ member),
          same, Nat.add_comm]
        rfl
  rw [digitsValue, step, placeValue, Nat.ofDigits_eq_foldr, List.map_reverse, List.foldr_reverse]
  rfl

theorem Keyword.ofWord?_word (reserved : Keyword) : ofWord? reserved.word = some reserved := by
  cases reserved <;> decide

theorem Keyword.ofWord?_eq_some {word : String} {reserved : Keyword}
    (known : ofWord? word = some reserved) : word = reserved.word := by
  have same := List.find?_some known
  simpa using (beq_iff_eq.mp same).symm

theorem gives_ofWord (lexeme : List Char) :
    Shape.Gives .word lexeme (.ofWord (String.ofList lexeme)) := by
  unfold Token.ofWord
  split
  · next reserved known =>
      have same := congrArg String.toList (Keyword.ofWord?_eq_some known)
      rw [String.toList_ofList] at same
      rw [same]
      exact .keyword reserved
  · next unknown =>
      have free : ∀ reserved : Keyword, lexeme ≠ reserved.word.toList := by
        rintro reserved rfl
        rw [String.ofList_toList, Keyword.ofWord?_word] at unknown
        cases unknown
      by_cases isTrue : String.ofList lexeme = Token.truthWord true
      · rw [if_pos (beq_iff_eq.mpr isTrue), ← String.toList_ofList (l := lexeme), isTrue]
        exact .truth true
      · rw [if_neg (by simpa using isTrue)]
        by_cases isFalse : String.ofList lexeme = Token.truthWord false
        · rw [if_pos (beq_iff_eq.mpr isFalse), ← String.toList_ofList (l := lexeme), isFalse]
          exact .truth false
        · rw [if_neg (by simpa using isFalse)]
          refine .name free fun holds same => ?_
          subst same
          rw [String.ofList_toList] at isTrue isFalse
          cases holds
          · exact isFalse rfl
          · exact isTrue rfl

theorem ofWord_of_gives (gives : Shape.Gives .word lexeme token) :
    Token.ofWord (String.ofList lexeme) = token := by
  cases gives with
  | keyword reserved => rw [String.ofList_toList, Token.ofWord, Keyword.ofWord?_word]
  | truth holds => cases holds <;> decide
  | name free plain =>
      have other : ∀ holds, ¬ (String.ofList lexeme == Token.truthWord holds) = true := by
        intro holds same
        apply plain holds
        rw [← beq_iff_eq.mp same, String.toList_ofList]
      unfold Token.ofWord
      split
      · next reserved known =>
          have same := congrArg String.toList (Keyword.ofWord?_eq_some known)
          rw [String.toList_ofList] at same
          exact absurd same (free reserved)
      · rw [if_neg (other true), if_neg (other false)]

theorem int_gives_iff {whole : List Char} (negative : Bool) (digits : Digits whole) :
    Shape.Gives .int (signed negative ++ whole) token ↔ whole.length ≤ Value.maxDigits ∧
      token = .int (if negative then -placeValue whole else placeValue whole) := by
  constructor
  · intro gives
    cases negative with
    | true =>
        generalize same : signed true ++ whole = lexeme at gives
        cases gives with
        | positive isDigits =>
            rw [← same] at isDigits
            exact absurd (isDigits '-' (List.mem_cons_self ..)) (by decide)
        | negative _ short =>
            obtain rfl := List.tail_eq_of_cons_eq same
            exact ⟨short, rfl⟩
    | false =>
        generalize same : signed false ++ whole = lexeme at gives
        cases gives with
        | positive _ short =>
            obtain rfl : whole = lexeme := same
            exact ⟨short, rfl⟩
        | negative =>
            have same : whole = '-' :: _ := same
            rw [same] at digits
            exact absurd (digits '-' (List.mem_cons_self ..)) (by decide)
  · rintro ⟨short, rfl⟩
    cases negative with
    | true => exact .negative digits short
    | false => exact .positive digits short

/-- Of a lexeme that fits its shape is made the token that it stands for. -/
theorem ofLexeme_eq_ok_iff (fits : shape.Matches lexeme) :
    Token.ofLexeme shape lexeme = .ok token ↔ shape.Gives lexeme token := by
  cases fits with
  | word starts continues =>
      constructor
      · intro made
        cases made
        exact gives_ofWord _
      · exact fun gives => congrArg Except.ok (ofWord_of_gives gives)
  | @text quote content isQuote absent =>
      have made : Token.ofLexeme .text (quote :: (content ++ [quote])) =
          .ok (.text (String.ofList content)) := by
        rw [Token.ofLexeme, Token.unquoted_quoted absent]
      rw [made]
      constructor
      · intro same
        cases same
        exact .text absent
      · intro gives
        generalize same : quote :: (content ++ [quote]) = lexeme at gives
        cases gives with
        | text absent =>
            obtain ⟨rfl, same⟩ := List.cons.inj same
            rw [List.append_cancel_right same]
  | float isFloat marked =>
      obtain ⟨x, reads⟩ := isFloat.readFloat_eq_ok
      rw [Token.ofLexeme, reads]
      constructor
      · intro same
        cases same
        exact .float reads
      · intro gives
        cases gives with
        | float readsOther =>
            rw [reads] at readsOther
            cases readsOther
            rfl
  | @int whole negative nonempty digits =>
      rw [int_gives_iff negative digits, Token.ofLexeme, readInt_signed negative digits nonempty,
        digitsValue_eq_placeValue digits]
      split
      · next long =>
          constructor
          · intro same
            cases same
          · exact fun gives => absurd gives.1 (Nat.not_le.mpr long)
      · next short =>
          constructor
          · intro same
            cases same
            exact ⟨Nat.not_lt.mp short, rfl⟩
          · rintro ⟨-, rfl⟩
            rfl
  | mark sign =>
      constructor
      · intro same
        cases same
        exact .mark sign
      · intro gives
        generalize sign.symbol.toList = lexeme at gives
        cases gives
        rfl

/-! ## Going through a text -/

/-- Lexing from a position on, where `chars` are left, gives tokens and ends in a way. -/
inductive Scans : Nat → List Char → Lexed → Prop where
  | finished (position : Nat) : Scans position [] ⟨[], .finished⟩
  | layout {position : Nat} {c : Char} {rest : List Char} {lexed : Lexed} : isLayout c = true →
      Scans (position + 1) rest lexed → Scans position (c :: rest) lexed
  | illegal (position : Nat) {c : Char} {rest : List Char} : isLayout c = false →
      (∀ (shape : Shape) (beginning : List Char), beginning <+: c :: rest →
        ¬ shape.Matches beginning) →
      Scans position (c :: rest) ⟨[], .illegal position (c :: rest)⟩
  | refused (position : Nat) {lexeme rest : List Char} : Foremost (lexeme ++ rest) .int lexeme →
      Value.maxDigits < digitCount lexeme →
      Scans position (lexeme ++ rest) ⟨[], .refused position (.digitsRead (digitCount lexeme))⟩
  | lexeme {position : Nat} {shape : Shape} {lexeme rest : List Char} {token : Token} {lexed : Lexed} :
      Foremost (lexeme ++ rest) shape lexeme → shape.Gives lexeme token →
      Scans (position + lexeme.length) rest lexed →
      Scans position (lexeme ++ rest) (lexed.cons ⟨token, position⟩)

/-- A lexeme does not start with layout. -/
theorem Shape.Matches.starts (fits : shape.Matches lexeme) :
    ∃ c more, lexeme = c :: more ∧ isLayout c = false := by
  obtain ⟨c, more, rfl⟩ := List.exists_cons_of_ne_nil fits.nonempty
  refine ⟨c, more, rfl, ?_⟩
  by_cases isText : shape = .text
  · subst isText
    cases fits with
    | text isQuote => rcases isQuote with rfl | rfl <;> rfl
  · exact fits.not_layout isText c (List.mem_cons_self ..)

/-- Where a lexeme is foremost, lexing goes on with its token, unless it is refused. -/
theorem lexFrom_foremost (foremost : Foremost (lexeme ++ rest) shape lexeme) (position : Nat) :
    lexFrom 0 position (lexeme ++ rest) =
      match Token.ofLexeme shape lexeme with
      | .error fault => ⟨[], .refused position fault⟩
      | .ok token => (lexFrom 0 (position + lexeme.length) rest).cons ⟨token, position⟩ := by
  have cut := lexeme?_eq_some_iff.mpr foremost
  obtain ⟨c, more, rfl, plain⟩ := foremost.fits.starts
  rw [List.cons_append] at cut ⊢
  have behind : position + (c :: more).length = position + 1 + more.length := by
    rw [List.length_cons]
    omega
  rw [behind, ← lexFrom_skip]
  cases made : Token.ofLexeme shape (c :: more) with
  | error fault => simp only [lexFrom, plain, Bool.false_eq_true, if_false, cut, made]
  | ok token =>
      simp only [lexFrom, plain, Bool.false_eq_true, if_false, cut, made, List.length_cons,
        Nat.add_sub_cancel]

theorem lexFrom_eq_of_scans (scans : Scans position chars lexed) :
    lexFrom 0 position chars = lexed := by
  induction scans with
  | finished position => rfl
  | layout layout _ ih =>
      rw [← ih, lexFrom, if_pos layout]
  | illegal position plain nothing =>
      have none := lexeme?_eq_none_iff.mpr nothing
      simp only [lexFrom, plain, Bool.false_eq_true, if_false, none]
  | refused position foremost long =>
      have refused := (ofLexeme_eq_error (lexeme?_eq_some_iff.mpr foremost)).mpr ⟨rfl, long, rfl⟩
      rw [lexFrom_foremost foremost, refused]
  | lexeme foremost gives _ ih =>
      rw [lexFrom_foremost foremost, (ofLexeme_eq_ok_iff foremost.fits).mpr gives, ih]

theorem scans_lexFrom (position : Nat) (chars : List Char) :
    Scans position chars (lexFrom 0 position chars) := by
  induction length : chars.length using Nat.strong_induction_on generalizing position chars with
  | _ count ih =>
  subst length
  cases chars with
  | nil => exact .finished position
  | cons c rest =>
      cases plain : isLayout c with
      | true =>
          rw [lexFrom, if_pos plain]
          exact .layout plain (ih _ (Nat.lt_succ_self _) (position + 1) rest rfl)
      | false =>
          cases cut : lexeme? (c :: rest) with
          | none =>
              simp only [lexFrom, plain, Bool.false_eq_true, if_false, cut]
              exact .illegal position plain (lexeme?_eq_none_iff.mp cut)
          | some found =>
              obtain ⟨shape, lexeme⟩ := found
              have foremost := lexeme?_eq_some_iff.mp cut
              obtain ⟨more, same⟩ := foremost.starts
              rw [← same] at foremost cut ih ⊢
              rw [lexFrom_foremost foremost]
              cases made : Token.ofLexeme shape lexeme with
              | error fault =>
                  obtain ⟨rfl, long, rfl⟩ := (ofLexeme_eq_error cut).mp made
                  exact .refused position foremost long
              | ok token =>
                  have shorter : more.length < (lexeme ++ more).length := by
                    have positive := List.length_pos_iff.mpr foremost.fits.nonempty
                    rw [List.length_append]
                    omega
                  exact .lexeme foremost ((ofLexeme_eq_ok_iff foremost.fits).mp made)
                    (ih _ shorter _ more rfl)

/-- Lexing computes the relation. -/
theorem scans_iff : Scans position chars lexed ↔ lexFrom 0 position chars = lexed :=
  ⟨lexFrom_eq_of_scans, fun same => same ▸ scans_lexFrom position chars⟩

end Stepwise
