import Stepwise.Proofs.Lexemes.Joining
import Stepwise.Proofs.Reading.Layout

/-!
# Operators without layout around them

Layout on both sides of an operator can be left out, with one exception: a minus right in front of a
digit or a point is taken for the sign of a number.  The text then has two operands with nothing between
them, and cannot be read.

That nothing else changes is a matter of the lexemes and of the grammar: an operator that comes next to
other lexemes could change them, or be changed by them, only if they were tokens that the grammar does not
let stand there.
-/

namespace Stepwise

open Number

variable {lexeme chars rest : List Char} {shape : Shape} {sign : Mark} {token : Token}
  {tokens : List Token} {c : Char}

/-! ## Operators and numbers as lexemes -/

/-- Whether a text begins like a number without a sign: with a digit or a point. -/
def startsUnsigned (chars : List Char) : Bool :=
  chars.head?.any fun c => Text.isDecimalDigit c || c == '.'

theorem digits_fraction_of_not_startsUnsigned (other : startsUnsigned rest = false) :
    Shape.digits rest = [] ∧ Shape.fraction rest = [] := by
  cases rest with
  | nil => exact ⟨rfl, rfl⟩
  | cons c more =>
      have other : (Text.isDecimalDigit c || c == '.') = false := other
      simp only [Bool.or_eq_false_iff, beq_eq_false_iff_ne] at other
      refine ⟨Shape.digits_of_head other.1 more, ?_⟩
      rcases Shape.fraction_eq_nil_or (c :: more) with none | ⟨_, same, -⟩
      · exact none
      · exact absurd (List.cons.inj same).1 other.2

/-- The marks that an equals sign would make longer are marks by themselves if none follows. -/
theorem lexeme?_single (noEquals : rest.head? ≠ some '=') :
    lexeme? ('=' :: rest) = some (.mark .equals, ['=']) ∧
      lexeme? ('<' :: rest) = some (.mark .less, ['<']) ∧
      lexeme? ('>' :: rest) = some (.mark .greater, ['>']) := by
  have noDouble (first : Char) : Shape.doubleMark? (first :: rest) = none := by
    unfold Shape.doubleMark?
    split <;> simp_all
  have found (first : Char) : Shape.mark? (first :: rest) = Shape.singleMark? (first :: rest) := by
    rw [Shape.mark?, noDouble]
    rfl
  have lexemeOf (first : Char) := congrArg
    (Option.map fun sign => (Shape.mark sign, sign.symbol.toList)) (found first)
  exact ⟨lexemeOf '=', lexemeOf '<', lexemeOf '>'⟩

/-- An operator is a lexeme if no equals sign follows, and if it is no minus in front of a number. -/
theorem foremost_operator (operator : Parse.isOperator (.mark sign) = true)
    (noEquals : rest.head? ≠ some '=') (noNumber : sign = .minus → startsUnsigned rest = false) :
    Foremost (sign.symbol.toList ++ rest) (.mark sign) sign.symbol.toList := by
  refine lexeme?_eq_some_iff.mp ?_
  cases sign with
  | plus | times | divide | equal | greaterEqual | lessEqual | notEqual => rfl
  | less => exact (lexeme?_single noEquals).2.1
  | greater => exact (lexeme?_single noEquals).2.2
  | minus =>
      obtain ⟨noDigits, noFraction⟩ := digits_fraction_of_not_startsUnsigned (noNumber rfl)
      have isMinus : Shape.minus ('-' :: rest) = ['-'] := rfl
      have noFloat : Shape.float? ('-' :: rest) = none := by
        simp [Shape.float?, isMinus, noDigits, noFraction]
      have noInt : Shape.int? ('-' :: rest) = none := by simp [Shape.int?, isMinus, noDigits]
      obtain ⟨noWord, noText⟩ := Shape.word?_text?_of_number (.inl rfl) rest
      have symbol : Mark.minus.symbol.toList ++ rest = '-' :: rest := rfl
      rw [symbol]
      simp only [lexeme?, noWord, noText, noFloat, noInt]
      rfl
  | _ => cases operator

namespace Shape.Matches

/-- Only numbers begin with a digit or a point. -/
theorem isNumber (fits : shape.Matches (c :: rest)) (starts : startsUnsigned (c :: rest) = true) :
    shape = .float ∨ shape = .int := by
  have starts : (Text.isDecimalDigit c || c == '.') = true := starts
  simp only [Bool.or_eq_true, beq_iff_eq] at starts
  generalize same : c :: rest = lexeme at fits
  cases fits with
  | word startsWord =>
      obtain ⟨rfl, -⟩ := List.cons.inj same
      rcases starts with digit | rfl
      · rw [not_startsWord_of_digit digit] at startsWord
        cases startsWord
      · cases startsWord
  | text isQuote =>
      obtain ⟨rfl, -⟩ := List.cons.inj same
      rcases starts with digit | rfl
      · rcases isQuote with rfl | rfl <;> cases digit
      · simp at isQuote
  | float => exact .inl rfl
  | int => exact .inr rfl
  | mark sign =>
      rcases starts with digit | rfl
      · cases sign <;> cases same <;> cases digit
      · cases sign <;> cases same

/-- A number that begins with a digit or a point may have a minus in front. -/
theorem negated (fits : shape.Matches (c :: rest)) (starts : startsUnsigned (c :: rest) = true) :
    shape.Matches ('-' :: c :: rest) := by
  have unsigned (negative : Bool) (more : List Char) (same : c :: rest = signed negative ++ more) :
      signed negative = [] := by
    cases negative with
    | false => rfl
    | true =>
        obtain ⟨rfl, -⟩ := List.cons.inj same
        cases starts
  rcases fits.isNumber starts with rfl | rfl
  · generalize same : c :: rest = lexeme at fits
    cases fits with
    | @float _ whole point exponent negative isFloat marked =>
        obtain ⟨rfl, digits, isPoint, isExponent⟩ := isFloat
        rw [unsigned negative _ same]
        have isFloat : IsFloatOf ('-' :: (whole ++ (point ++ exponent))) true whole point exponent :=
          ⟨rfl, digits, isPoint, isExponent⟩
        exact .float isFloat marked
  · generalize same : c :: rest = lexeme at fits
    cases fits with
    | @int whole negative nonempty digits =>
        rw [unsigned negative _ same]
        exact .int true nonempty digits

/-- A number without the minus in front of it is a number. -/
theorem of_negated (fits : shape.Matches ('-' :: rest)) (isNumber : shape = .float ∨ shape = .int) :
    shape.Matches rest := by
  have noDigit : Text.isDecimalDigit '-' ≠ true := by decide
  rcases isNumber with rfl | rfl
  · generalize same : '-' :: rest = lexeme at fits
    cases fits with
    | @float _ whole point exponent negative isFloat marked =>
        obtain ⟨rfl, digits, isPoint, isExponent⟩ := isFloat
        cases negative with
        | true =>
            obtain ⟨-, rfl⟩ := List.cons.inj same
            have isFloat : IsFloatOf (whole ++ (point ++ exponent)) false whole point exponent :=
              ⟨rfl, digits, isPoint, isExponent⟩
            exact .float isFloat marked
        | false =>
            have same : '-' :: rest = whole ++ (point ++ exponent) := same
            cases whole with
            | cons d whole =>
                obtain ⟨rfl, -⟩ := List.cons.inj same
                exact absurd (digits '-' List.mem_cons_self) noDigit
            | nil =>
                rcases isPoint with ⟨-, nonempty⟩ | ⟨behind, rfl, -⟩
                · exact absurd rfl nonempty
                · cases same
  · generalize same : '-' :: rest = lexeme at fits
    cases fits with
    | @int whole negative nonempty digits =>
        cases negative with
        | true =>
            obtain ⟨-, rfl⟩ := List.cons.inj same
            exact .int false nonempty digits
        | false =>
            have same : '-' :: rest = whole := same
            rw [← same] at digits
            exact absurd (digits '-' List.mem_cons_self) noDigit

end Shape.Matches

/-- A minus in front of a number that begins with a digit or a point is its sign. -/
theorem Foremost.negated (foremost : Foremost (c :: rest) shape lexeme)
    (starts : startsUnsigned (c :: rest) = true) :
    Foremost ('-' :: c :: rest) shape ('-' :: lexeme) := by
  obtain ⟨first, more, rfl⟩ := List.exists_cons_of_ne_nil foremost.fits.nonempty
  obtain ⟨rfl, -⟩ := List.cons_prefix_cons.mp foremost.starts
  have isNumber := foremost.fits.isNumber starts
  refine ⟨(List.prefix_cons_inj '-').mpr foremost.starts, foremost.fits.negated starts, ?_⟩
  intro other beginning startsOther fits
  obtain ⟨d, beginning, rfl⟩ := List.exists_cons_of_ne_nil fits.nonempty
  obtain ⟨rfl, startsRest⟩ := List.cons_prefix_cons.mp startsOther
  have longer : other = .float ∨ other = .int → shape.place < other.place ∨
      shape = other ∧ ('-' :: beginning).length ≤ ('-' :: first :: more).length := by
    intro isNumberOther
    rcases foremost.first startsRest (fits.of_negated isNumberOther) with before | ⟨same, short⟩
    · exact .inl before
    · exact .inr ⟨same, Nat.succ_le_succ short⟩
  cases other with
  | word =>
      cases fits with
      | word startsWord => cases startsWord
  | text =>
      cases fits with
      | text isQuote => simp at isQuote
  | float => exact longer (.inl rfl)
  | int => exact longer (.inr rfl)
  | mark sign =>
      have last := Shape.place_mark sign
      rcases isNumber with rfl | rfl
      · exact .inl (Nat.lt_trans (by decide) last)
      · exact .inl last

theorem Shape.Gives.negated (gives : shape.Gives lexeme token) (fits : shape.Matches ('-' :: lexeme))
    (isNumber : shape = .float ∨ shape = .int) :
    ∃ number, shape.Gives ('-' :: lexeme) number ∧ number.isNumber = true := by
  rcases isNumber with rfl | rfl
  · cases fits with
    | float isFloat =>
        obtain ⟨x, reads⟩ := isFloat.readFloat_eq_ok
        exact ⟨.float x, .float reads, rfl⟩
  · cases gives with
    | positive digits short => exact ⟨_, .negative digits short, rfl⟩
    | negative =>
        have digit := fits.digits_of_int '-' List.mem_cons_self
        cases digit

/-! ## The tokens around an operator -/

namespace LexesTo

/-- What follows a mark that is a token. -/
theorem of_mark (lexes : LexesTo (sign.symbol.toList ++ rest) (.mark sign :: tokens)) :
    LexesTo rest tokens := by
  obtain ⟨c, more, symbol, plain⟩ := (Shape.Matches.mark sign).starts
  rw [symbol, List.cons_append] at lexes
  obtain ⟨shape, lexeme, behind, token, others, parts, same, foremost, gives, lexesRest⟩ :=
    lexes.exists_foremost plain
  cases same
  cases gives
  rw [symbol, List.cons_append] at parts
  obtain rfl := List.append_cancel_left (List.cons.inj parts).2
  exact lexesRest

/-- The token of an equals sign. -/
theorem head_of_equals (lexes : LexesTo ('=' :: rest) tokens) :
    tokens.head? = some (.mark .equals) ∨ tokens.head? = some (.mark .equal) := by
  obtain ⟨shape, lexeme, _, token, others, -, rfl, foremost, gives, -⟩ := lexes.exists_foremost rfl
  have cut := lexeme?_eq_some_iff.mpr foremost
  by_cases double : rest.head? = some '='
  · obtain ⟨more, rfl⟩ := List.head?_eq_some_iff.mp double
    cases cut
    cases gives
    exact .inr rfl
  · rw [(lexeme?_single double).1] at cut
    cases cut
    cases gives
    exact .inl rfl

/-- A minus in front of a text that begins with a digit or a point makes another number of its first
token. -/
theorem negated (lexes : LexesTo chars tokens) (starts : startsUnsigned chars = true) :
    ∃ number others, number.isNumber = true ∧ LexesTo ('-' :: chars) (number :: others) := by
  cases chars with
  | nil => cases starts
  | cons c rest =>
      have plain : isLayout c = false := by
        rw [← Bool.not_eq_true]
        intro layout
        rcases isLayout_eq_true layout with rfl | rfl | rfl <;> cases starts
      obtain ⟨shape, lexeme, more, token, others, parts, -, foremost, gives, lexesRest⟩ :=
        lexes.exists_foremost plain
      have isNumber : shape = .float ∨ shape = .int := by
        obtain ⟨first, behind, rfl⟩ := List.exists_cons_of_ne_nil foremost.fits.nonempty
        obtain ⟨rfl, -⟩ := List.cons_prefix_cons.mp foremost.starts
        exact foremost.fits.isNumber starts
      have signed := foremost.negated starts
      obtain ⟨number, givesNumber, known⟩ := gives.negated signed.fits isNumber
      rw [parts, ← List.cons_append] at signed ⊢
      exact ⟨number, others, known, .lexeme signed givesNumber lexesRest⟩

end LexesTo

/-- An operator begins with a character of operators, and only one of them with an equals sign. -/
theorem symbol_of_operator (operator : Parse.isOperator (.mark sign) = true) :
    ∃ c more, sign.symbol.toList = c :: more ∧ c ∈ operatorChars ∧ (c = '=' → sign = .equal) := by
  cases sign with
  | plus | minus | times | divide | greater | less | equal | greaterEqual | lessEqual | notEqual =>
      exact ⟨_, _, rfl, by decide, by decide⟩
  | _ => cases operator

section Joined

variable {before after : List Char} {front back : List Token} {start finish : Grammar.Place}
  (path : Grammar.Path start (front ++ .mark sign :: back) finish)
  (operator : Parse.isOperator (.mark sign) = true) (lexesBefore : LexesTo before front)
  (lexesAfter : LexesTo after back)

include path operator

theorem apart_of_path (first : c = '=' → sign = .equal) : Apart front c where
  number _ isNumber word := path.not_number_name operator isNumber word
  double equals _ relation := by
    obtain rfl := first equals
    exact path.not_relation relation

include lexesBefore lexesAfter

/-- An operator can be put between two texts, if it does not become a sign. -/
theorem lexesTo_joined (noSign : sign = .minus → startsUnsigned after = false) :
    LexesTo (before ++ (sign.symbol.toList ++ after)) (front ++ .mark sign :: back) := by
  have noEquals : after.head? ≠ some '=' := by
    intro starts
    obtain ⟨rest, rfl⟩ := List.head?_eq_some_iff.mp starts
    have notThere := path.not_equals operator
    exact lexesAfter.head_of_equals.elim notThere.1 notThere.2
  have lexes := LexesTo.lexeme (foremost_operator operator noEquals noSign) (.mark sign) lexesAfter
  obtain ⟨c, more, symbol, isOperator, isEqual⟩ := symbol_of_operator operator
  rw [symbol, List.cons_append] at lexes ⊢
  exact lexesBefore.append isOperator (apart_of_path path operator isEqual) lexes

/-- A minus between two texts becomes a sign in front of a digit or a point. -/
theorem exists_lexesTo_signed (isMinus : sign = .minus) (starts : startsUnsigned after = true) :
    ∃ number others, number.isNumber = true ∧
      LexesTo (before ++ (sign.symbol.toList ++ after)) (front ++ number :: others) := by
  subst isMinus
  obtain ⟨number, others, isNumber, lexes⟩ := lexesAfter.negated starts
  have isOperator : '-' ∈ operatorChars := by decide
  have apart : Apart front '-' := apart_of_path path operator (by decide)
  exact ⟨number, others, isNumber, lexesBefore.append isOperator apart lexes⟩

end Joined

/-! ## Reading -/

/-- Tokens are parsed alike wherever they stand. -/
theorem parseTokens_eq_ok_of_map {placed others : List Placed} {program : Program}
    (same : others.map Placed.token = placed.map Placed.token)
    (parsed : parseTokens placed = .ok program) : parseTokens others = .ok program := by
  have moved : ∀ all : List Placed, all.map (fun placed => (⟨placed.token, 0⟩ : Placed)) =
      (all.map Placed.token).map fun token => ⟨token, 0⟩ := by
    intro all
    rw [List.map_map]
    rfl
  have keeps : ∀ placed : Placed, (⟨placed.token, 0⟩ : Placed).token = placed.token := fun _ => rfl
  have here := parseTokens_map keeps placed
  have there := parseTokens_map keeps others
  rw [moved, same, ← moved, here, parsed] at there
  cases parsedOther : parseTokens others with
  | ok found =>
      rw [parsedOther] at there
      exact there.symm
  | error rest =>
      rw [parsedOther] at there
      cases there

namespace Reading

/-- A text with the tokens of a program reads as this program. -/
theorem read_eq_of_lexesTo {source other : String} {program : Program}
    (accepted : (Program.read source).outcome = .ok program)
    (lexes : LexesTo other.toList ((lex source).tokens.map Placed.token)) :
    (Program.read other).outcome = .ok program := by
  obtain ⟨parsed, finished⟩ := Program.parsed_of_read accepted
  obtain ⟨finishedOther, same⟩ := lex_of_lexesTo lexes
  have parsedOther := parseTokens_eq_ok_of_map same parsed
  have tree := ProgramTree.of_parseTokens (lex_named source) parsed
  rw [← accepted]
  simp only [Program.read, parsed, parsedOther, finished, finishedOther, atEnd,
    check_outcome_eq tree source other]

theorem path_of_read {source : String} {program : Program}
    (accepted : (Program.read source).outcome = .ok program) :
    Grammar.Path .behind ((lex source).tokens.map Placed.token) .behind :=
  (parseTokens_derives (lex_proper source) (Program.parsed_of_read accepted).1).path

/-- An operator stands between operands at a position of a text.  A minus does if an operand ends in
front of it; otherwise it is a sign. -/
def OperatorAt (source : String) (position : Nat) (sign : Mark) : Prop :=
  Parse.isOperator (.mark sign) = true ∧ ∃ front back,
    (lex source).tokens = front ++ ⟨.mark sign, position⟩ :: back ∧
      (sign = .minus → ∃ last, front.getLast? = some last ∧ last.token.endsOperand = true)

/-- A text can be cut around an operator and the layout next to it. -/
theorem OperatorAt.cut {before gap space after : String}
    (between : OperatorAt (before ++ gap ++ sign.symbol ++ space ++ after) (before ++ gap).length sign)
    (blank : ∀ c ∈ (gap ++ space).toList, isLayout c = true)
    (finished : (lex (before ++ gap ++ sign.symbol ++ space ++ after)).ending = .finished) :
    ∃ front back, LexesTo before.toList front ∧ LexesTo after.toList back ∧
      (lex (before ++ gap ++ sign.symbol ++ space ++ after)).tokens.map Placed.token =
        front ++ .mark sign :: back ∧
      (sign = .minus → ∃ last, [last] <:+ front ∧ last.endsOperand = true) := by
  obtain ⟨-, front, back, found, binary⟩ := between
  rw [String.toList_append, List.forall_mem_append] at blank
  have parts : (before ++ gap ++ sign.symbol ++ space ++ after).toList =
      (before ++ gap).toList ++ (sign.symbol.toList ++ (space.toList ++ after.toList)) := by
    simp only [String.toList_append, List.append_assoc]
  have place : (before ++ gap).length = 0 + (before ++ gap).toList.length := by
    rw [Nat.zero_add, String.length_toList]
  obtain ⟨lexesFront, lexesBack⟩ := (scans_lexFrom 0 _).cut finished parts found place
  rw [String.toList_append] at lexesFront
  refine ⟨front.map Placed.token, back.map Placed.token, lexesFront.of_append_right blank.1,
    lexesBack.of_mark.of_append_left blank.2, ?_, fun isMinus => ?_⟩
  · rw [found, List.map_append, List.map_cons]
  · obtain ⟨last, isLast, ends⟩ := binary isMinus
    obtain ⟨start, rfl⟩ := List.getLast?_eq_some_iff.mp isLast
    exact ⟨last.token, ⟨start.map Placed.token, by rw [List.map_append]; rfl⟩, ends⟩

/-- A program text reads as the same program without the layout around an operator, unless the operator
is a minus and a digit or a point comes to stand behind it.  Then the text cannot be read. -/
theorem read_compact {before gap space after : String} {program : Program}
    (blank : ∀ c ∈ (gap ++ space).toList, isLayout c = true)
    (between : OperatorAt (before ++ gap ++ sign.symbol ++ space ++ after) (before ++ gap).length sign)
    (accepted : (Program.read (before ++ gap ++ sign.symbol ++ space ++ after)).outcome = .ok program) :
    let compact := (Program.read (before ++ sign.symbol ++ after)).outcome
    (¬ (sign = .minus ∧ startsUnsigned after.toList = true) → compact = .ok program) ∧
      (sign = .minus ∧ startsUnsigned after.toList = true → ∃ stop, compact = .error stop) := by
  intro compact
  have finished := (Program.parsed_of_read accepted).2
  obtain ⟨front, back, lexesBefore, lexesAfter, found, binary⟩ := between.cut blank finished
  have path := path_of_read accepted
  rw [found] at path
  have text : (before ++ sign.symbol ++ after).toList =
      before.toList ++ (sign.symbol.toList ++ after.toList) := by
    rw [String.toList_append, String.toList_append, List.append_assoc]
  constructor
  · intro noSign
    have noSign : sign = .minus → startsUnsigned after.toList = false := by
      intro isMinus
      rw [← Bool.not_eq_true]
      exact fun starts => noSign ⟨isMinus, starts⟩
    have lexes := lexesTo_joined path between.1 lexesBefore lexesAfter noSign
    rw [← text, ← found] at lexes
    exact read_eq_of_lexesTo accepted lexes
  · rintro ⟨isMinus, starts⟩
    obtain ⟨number, others, isNumber, lexes⟩ :=
      exists_lexesTo_signed path between.1 lexesBefore lexesAfter isMinus starts
    obtain ⟨last, isLast, ends⟩ := binary isMinus
    cases read : compact with
    | error stop => exact ⟨stop, rfl⟩
    | ok other =>
        -- the number would stand behind an operand
        have pathOther := path_of_read read
        rw [(lex_of_lexesTo (text ▸ lexes)).2] at pathOther
        exact absurd isLast (pathOther.not_endsOperand isNumber ends)

/-- A minus in front of a name that could be the letter of an exponent, between two lines. -/
theorem read_compact_letter :
    let before := "objective \"o\" task \"t\": step \"s\": x = 1"
    let after := "e run \"t\""
    let source := before ++ "\n" ++ Mark.minus.symbol ++ " " ++ after
    ∃ program, (∀ c ∈ ("\n" ++ " ").toList, isLayout c = true) ∧
      OperatorAt source (before ++ "\n").length .minus ∧
      (Program.read source).outcome = .ok program ∧
      (Program.read (before ++ Mark.minus.symbol ++ after)).outcome = .ok program := by
  intro before after source
  have blank : ∀ c ∈ ("\n" ++ " ").toList, isLayout c = true := by
    have chars : ("\n" ++ " ").toList = ['\n', ' '] := rfl
    intro c member
    rw [chars] at member
    rcases List.mem_pair.mp member with rfl | rfl <;> rfl
  have found : (lex source).tokens = (lex source).tokens.take 11 ++
      ⟨.mark .minus, (before ++ "\n").length⟩ :: (lex source).tokens.drop 12 := by decide +kernel
  have last : ((lex source).tokens.take 11).getLast? = some ⟨.int 1, 38⟩ := by decide +kernel
  have between : OperatorAt source (before ++ "\n").length .minus :=
    ⟨rfl, _, _, found, fun _ => ⟨_, last, rfl⟩⟩
  have ends : (Program.read source).outcome.isOk = true := by decide +kernel
  cases accepted : (Program.read source).outcome with
  | error stop =>
      rw [accepted] at ends
      cases ends
  | ok program =>
      have starts : startsUnsigned after.toList = false := by decide +kernel
      have compact := (read_compact blank between accepted).1 fun sign => by
        rw [starts] at sign
        cases sign.2
      exact ⟨program, blank, between, rfl, compact⟩

/-- Without the layout around it, a minus in front of a digit becomes a sign. -/
theorem compact_minus_refused :
    let spaced := "objective \"o\" task \"t\": step \"s\": x = a - 1 run \"t\""
    let compact := "objective \"o\" task \"t\": step \"s\": x = a-1 run \"t\""
    ⟨.mark .minus, 40⟩ ∈ (lex spaced).tokens ∧ (Program.read spaced).outcome.isOk = true ∧
      (Program.read compact).outcome.isOk = false := by
  decide +kernel

end Reading

end Stepwise
