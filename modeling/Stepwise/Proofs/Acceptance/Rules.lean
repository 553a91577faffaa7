import Stepwise.Program.Reading
import Stepwise.Proofs.Acceptance.Program

/-!
# Which programs are accepted

The rules of the grammar as a whole.  Every rule passes on what its parts do, so that a list of tokens
with a derivation as a program is accepted if, and only if, the derivation strands no operator.
-/

namespace Stepwise

open Grammar
open Phrases (whole)

namespace Parse

/-- A phrase of one statement at least. -/
def IsStatement (piece : Piece) : Prop :=
  Starts startsStatement piece.placed ∧ TakesStatements piece

/-- What is known of a phrase that a rule builds. Some rules build phrases that no other phrase
contains; nothing has to be known of those. -/
def PhraseBehaves (rule : Rule) (piece : Piece) : Prop :=
  match rule with
  | .primary | .indexExpression | .list | .dictLiteral => Takes (factor whole) IsPrimary piece
  | .factor => Takes (factor whole) IsFactor piece
  | .term => Takes term IsTerm piece
  | .arithmetic => Takes arithmetic IsArithmetic piece
  | .comparison => Takes (factor whole >>= operation whole) IsOperation piece
  | .expression => TakesExpression piece
  | .listItems | .argumentList => TakesUpTo (expressions whole) startsOperand endsItem piece
  | .dictEntry => TakesUpTo entry startsOperand endsExpression piece
  | .dictEntries => TakesUpTo (entries whole) startsOperand endsItem piece
  | .functionCall => TakesCall piece
  | .statement | .simpleStatement | .compoundStatement | .assignment | .returnStatement
  | .decideStatement | .forStatement | .loopBody =>
    IsStatement piece
  | .statementList => TakesStatements piece
  | .empty => piece = ⟨[], .plain, false⟩
  | .ifCondition =>
    ∃ position inside, piece.placed = ⟨.keyword .ifWord, position⟩ :: inside ∧
      TakesBranch inside piece.strands
  | .conditionList =>
    ∃ position inside, piece.placed = ⟨.keyword .ifWord, position⟩ :: inside ∧
      TakesChoice inside piece.strands
  | .elifCondition | .elifList => ExtendsChoice piece
  | .elseCondition => EndsChoice piece
  | .iterable => TakesSource piece
  | .step | .subtask => Accepts (choose (itemAfter whole) stuck) startsItem endsBody piece
  | .itemList => Accepts (items whole) startsItem endsItems piece
  | .task => Accepts task (· = .keyword .task) endsItems piece
  | .taskList => Accepts (tasks whole) (· = .keyword .task) endsTasks piece
  | .runStatement =>
    piece.strands = false ∧ Accepts runTitle (· = .keyword .run) (fun _ => true) piece
  | .runList =>
    piece.strands = false ∧
      Accepts (runs whole) (· = .keyword .run) (fun token => !(token = .keyword .run)) piece
  | .objective =>
    ∃ content first position, piece =
      ⟨[⟨.keyword .objective, first⟩, ⟨.text content, position⟩], .plain, false⟩
  | .program => AcceptsProgram piece
  | .indexing | .literal | .number | .arrayAccess | .numericLiteral => True

/-- What is known of a symbol: a token is a single one, of its kind. -/
def Behaves : Symbol → Piece → Prop
  | .token kind, piece => ∃ placed, piece = leaf placed ∧ placed.token.kindName = kind
  | .phrase rule, piece => PhraseBehaves rule piece

/-! ## Parts and tokens -/

section

variable {first second third fourth : Symbol} {symbols : List Symbol} {parts : List Piece}

theorem fit_cons (fit : List.Forall₂ Behaves (first :: symbols) parts) :
    ∃ a rest, parts = a :: rest ∧ Behaves first a ∧ List.Forall₂ Behaves symbols rest := by
  obtain ⟨a, rest, fits, fitRest, rfl⟩ := List.forall₂_cons_left_iff.mp fit
  exact ⟨a, rest, rfl, fits, fitRest⟩

theorem fit_one (fit : List.Forall₂ Behaves [first] parts) :
    ∃ a, parts = [a] ∧ Behaves first a := by
  obtain ⟨a, rest, rfl, fits, fitRest⟩ := fit_cons fit
  obtain rfl := List.forall₂_nil_left_iff.mp fitRest
  exact ⟨a, rfl, fits⟩

theorem fit_two (fit : List.Forall₂ Behaves [first, second] parts) :
    ∃ a b, parts = [a, b] ∧ Behaves first a ∧ Behaves second b := by
  obtain ⟨a, rest, rfl, fits, fitRest⟩ := fit_cons fit
  obtain ⟨b, rfl, fitsRest⟩ := fit_one fitRest
  exact ⟨a, b, rfl, fits, fitsRest⟩

theorem fit_three (fit : List.Forall₂ Behaves [first, second, third] parts) :
    ∃ a b c, parts = [a, b, c] ∧ Behaves first a ∧ Behaves second b ∧ Behaves third c := by
  obtain ⟨a, rest, rfl, fits, fitRest⟩ := fit_cons fit
  obtain ⟨b, c, rfl, fitsRest⟩ := fit_two fitRest
  exact ⟨a, b, c, rfl, fits, fitsRest⟩

theorem fit_four (fit : List.Forall₂ Behaves [first, second, third, fourth] parts) :
    ∃ a b c d, parts = [a, b, c, d] ∧ Behaves first a ∧ Behaves second b ∧ Behaves third c ∧
      Behaves fourth d := by
  obtain ⟨a, rest, rfl, fits, fitRest⟩ := fit_cons fit
  obtain ⟨b, c, d, rfl, fitsRest⟩ := fit_three fitRest
  exact ⟨a, b, c, d, rfl, fits, fitsRest⟩

end

theorem mark_leaf (sign : Mark) {piece : Piece} (behaves : Behaves (.token sign.kindName) piece) :
    ∃ position, piece = leaf ⟨.mark sign, position⟩ := by
  obtain ⟨⟨token, position⟩, rfl, kind⟩ := behaves
  obtain rfl : token = .mark sign := eq_mark_of_kindName kind
  exact ⟨position, rfl⟩

theorem keyword_leaf (reserved : Keyword) {piece : Piece}
    (behaves : Behaves (.token reserved.kindName) piece) :
    ∃ position, piece = leaf ⟨.keyword reserved, position⟩ := by
  obtain ⟨⟨token, position⟩, rfl, kind⟩ := behaves
  obtain rfl : token = .keyword reserved := eq_keyword_of_kindName kind
  exact ⟨position, rfl⟩

theorem name_leaf {piece : Piece} (behaves : Behaves (.token "IDENTIFIER") piece) :
    ∃ word position, piece = leaf ⟨.name word, position⟩ := by
  obtain ⟨⟨token, position⟩, rfl, kind⟩ := behaves
  obtain ⟨word, rfl⟩ := exists_name_of_kindName kind
  exact ⟨word, position, rfl⟩

theorem text_leaf {piece : Piece} (behaves : Behaves (.token "STRING") piece) :
    ∃ content position, piece = leaf ⟨.text content, position⟩ := by
  obtain ⟨⟨token, position⟩, rfl, kind⟩ := behaves
  obtain ⟨content, rfl⟩ := exists_text_of_kindName kind
  exact ⟨content, position, rfl⟩

/-! ## Expressions -/

section

variable {symbols : List Symbol} {parts : List Piece}

/-- The alternatives of a primary expression: a token, another phrase, or a group. -/
theorem primary_symbols : ∀ symbols ∈ Rule.primary.alternatives,
    (∃ kind ∈ ["IDENTIFIER", "NUMBER", "STRING", "BOOL", "FLOAT"], symbols = [.token kind]) ∨
      (∃ rule ∈ [Rule.list, .dictLiteral, .indexExpression, .functionCall],
        symbols = [.phrase rule]) ∨
      symbols = [.token "LPAREN", .phrase .expression, .token "RPAREN"] := by
  decide

theorem primary_passes (listed : symbols ∈ Rule.primary.alternatives)
    (fit : List.Forall₂ Behaves symbols parts) :
    Takes (factor whole) IsPrimary (Piece.join .primary parts) := by
  rcases primary_symbols symbols listed with ⟨kind, kinds, rfl⟩ | ⟨rule, rules, rfl⟩ | rfl
  · obtain ⟨_, rfl, only⟩ := fit_one fit
    obtain ⟨placed, rfl, rfl⟩ := only
    rw [join_only (by decide)]
    exact takes_leaf kinds
  · obtain ⟨_, rfl, only⟩ := fit_one fit
    rw [join_only (by decide)]
    simp only [List.mem_cons, List.not_mem_nil, or_false] at rules
    rcases rules with rfl | rfl | rfl | rfl
    · exact only
    · exact only
    · exact only
    · exact TakesCall.primary only
  · obtain ⟨_, _, _, rfl, first, inside, last⟩ := fit_three fit
    obtain ⟨opened, rfl⟩ := mark_leaf .openParen first
    obtain ⟨closed, rfl⟩ := mark_leaf .closeParen last
    exact TakesExpression.group inside

theorem factor_passes (listed : symbols ∈ Rule.factor.alternatives)
    (fit : List.Forall₂ Behaves symbols parts) :
    Takes (factor whole) IsFactor (Piece.join .factor parts) := by
  simp only [Rule.alternatives, List.mem_cons, List.not_mem_nil, or_false] at listed
  rcases listed with rfl | rfl
  · obtain ⟨_, rfl, only⟩ := fit_one fit
    rw [join_only (by decide)]
    exact Takes.factor only
  · obtain ⟨_, _, rfl, first, operand⟩ := fit_two fit
    obtain ⟨position, rfl⟩ := mark_leaf .minus first
    exact Takes.negate rfl operand

theorem term_passes (listed : symbols ∈ Rule.term.alternatives)
    (fit : List.Forall₂ Behaves symbols parts) :
    Takes term IsTerm (Piece.join .term parts) := by
  simp only [Rule.alternatives, List.mem_cons, List.not_mem_nil, or_false] at listed
  rcases listed with rfl | rfl | rfl
  · obtain ⟨_, rfl, only⟩ := fit_one fit
    rw [join_only (by decide)]
    exact Takes.term only
  · obtain ⟨_, _, _, rfl, left, sign, right⟩ := fit_three fit
    obtain ⟨position, rfl⟩ := mark_leaf .times sign
    exact Takes.product left rfl right
  · obtain ⟨_, _, _, rfl, left, sign, right⟩ := fit_three fit
    obtain ⟨position, rfl⟩ := mark_leaf .divide sign
    exact Takes.product left rfl right

theorem arithmetic_passes (listed : symbols ∈ Rule.arithmetic.alternatives)
    (fit : List.Forall₂ Behaves symbols parts) :
    Takes arithmetic IsArithmetic (Piece.join .arithmetic parts) := by
  simp only [Rule.alternatives, List.mem_cons, List.not_mem_nil, or_false] at listed
  rcases listed with rfl | rfl | rfl
  · obtain ⟨_, rfl, only⟩ := fit_one fit
    rw [join_only (by decide)]
    exact Takes.arithmetic only
  · obtain ⟨_, _, _, rfl, left, sign, right⟩ := fit_three fit
    obtain ⟨position, rfl⟩ := mark_leaf .plus sign
    exact Takes.sum left rfl right
  · obtain ⟨_, _, _, rfl, left, sign, right⟩ := fit_three fit
    obtain ⟨position, rfl⟩ := mark_leaf .minus sign
    exact Takes.sum left rfl right

/-- The token that compares, for each alternative of a comparison. -/
theorem comparison_symbols : ∀ symbols ∈ Rule.comparison.alternatives,
    ∃ sign ∈ [Mark.greater, .less, .equal, .greaterEqual, .lessEqual, .notEqual],
      (comparingOperator? (.mark sign)).isSome = true ∧
        symbols = [.phrase .arithmetic, .token sign.kindName, .phrase .arithmetic] := by
  decide

theorem comparison_passes (listed : symbols ∈ Rule.comparison.alternatives)
    (fit : List.Forall₂ Behaves symbols parts) :
    Takes (factor whole >>= operation whole) IsOperation (Piece.join .comparison parts) := by
  obtain ⟨sign, -, known, rfl⟩ := comparison_symbols symbols listed
  obtain ⟨_, _, _, rfl, left, between, right⟩ := fit_three fit
  obtain ⟨position, rfl⟩ := mark_leaf sign between
  obtain ⟨operator, known⟩ := Option.isSome_iff_exists.mp known
  exact Takes.comparison left known right

theorem expression_passes (listed : symbols ∈ Rule.expression.alternatives)
    (fit : List.Forall₂ Behaves symbols parts) :
    TakesExpression (Piece.join .expression parts) := by
  simp only [Rule.alternatives, List.mem_cons, List.not_mem_nil, or_false] at listed
  rcases listed with rfl | rfl | rfl
  · obtain ⟨_, rfl, only⟩ := fit_one fit
    exact (Takes.operation only).expression
  · obtain ⟨_, rfl, only⟩ := fit_one fit
    exact Takes.expression only
  · obtain ⟨_, _, _, rfl, first, inside, last⟩ := fit_three fit
    obtain ⟨opened, rfl⟩ := mark_leaf .openParen first
    obtain ⟨closed, rfl⟩ := mark_leaf .closeParen last
    exact TakesExpression.parenthesized inside

theorem indexing_passes (listed : symbols ∈ Rule.indexing.alternatives)
    (fit : List.Forall₂ Behaves symbols parts) :
    TakesExpression (Piece.join .indexing parts) := by
  obtain rfl := List.mem_singleton.mp listed
  obtain ⟨_, _, _, _, rfl, container, first, key, last⟩ := fit_four fit
  obtain ⟨opened, rfl⟩ := mark_leaf .openBracket first
  obtain ⟨closed, rfl⟩ := mark_leaf .closeBracket last
  exact TakesExpression.indexed container key

theorem indexExpression_passes (listed : symbols ∈ Rule.indexExpression.alternatives)
    (fit : List.Forall₂ Behaves symbols parts) :
    Takes (factor whole) IsPrimary (Piece.join .indexExpression parts) := by
  simp only [Rule.alternatives, List.mem_cons, List.not_mem_nil, or_false] at listed
  rcases listed with rfl | rfl
  all_goals
    obtain ⟨_, _, _, _, rfl, container, first, key, last⟩ := fit_four fit
    obtain ⟨opened, rfl⟩ := mark_leaf .openBracket first
    obtain ⟨closed, rfl⟩ := mark_leaf .closeBracket last
  · exact Takes.indexed container key
  · obtain ⟨word, position, rfl⟩ := name_leaf container
    exact Takes.indexed (takes_leaf (by simp [Token.kindName])) key

theorem list_passes (listed : symbols ∈ Rule.list.alternatives)
    (fit : List.Forall₂ Behaves symbols parts) :
    Takes (factor whole) IsPrimary (Piece.join .list parts) := by
  simp only [Rule.alternatives, List.mem_cons, List.not_mem_nil, or_false] at listed
  rcases listed with rfl | rfl
  · obtain ⟨_, _, _, rfl, first, inside, last⟩ := fit_three fit
    obtain ⟨opened, rfl⟩ := mark_leaf .openBracket first
    obtain ⟨closed, rfl⟩ := mark_leaf .closeBracket last
    exact takes_list inside rfl rfl
  · obtain ⟨_, _, rfl, first, last⟩ := fit_two fit
    obtain ⟨opened, rfl⟩ := mark_leaf .openBracket first
    obtain ⟨closed, rfl⟩ := mark_leaf .closeBracket last
    exact takes_empty list_known rfl nofun rfl

theorem dictLiteral_passes (listed : symbols ∈ Rule.dictLiteral.alternatives)
    (fit : List.Forall₂ Behaves symbols parts) :
    Takes (factor whole) IsPrimary (Piece.join .dictLiteral parts) := by
  simp only [Rule.alternatives, List.mem_cons, List.not_mem_nil, or_false] at listed
  rcases listed with rfl | rfl
  · obtain ⟨_, _, _, rfl, first, inside, last⟩ := fit_three fit
    obtain ⟨opened, rfl⟩ := mark_leaf .openBrace first
    obtain ⟨closed, rfl⟩ := mark_leaf .closeBrace last
    exact takes_dict inside rfl rfl
  · obtain ⟨_, _, rfl, first, last⟩ := fit_two fit
    obtain ⟨opened, rfl⟩ := mark_leaf .openBrace first
    obtain ⟨closed, rfl⟩ := mark_leaf .closeBrace last
    exact takes_empty dict_known rfl nofun rfl

theorem dictEntry_passes (listed : symbols ∈ Rule.dictEntry.alternatives)
    (fit : List.Forall₂ Behaves symbols parts) :
    TakesUpTo entry startsOperand endsExpression (Piece.join .dictEntry parts) := by
  obtain rfl := List.mem_singleton.mp listed
  obtain ⟨key, _, value, rfl, takesKey, sign, takesValue⟩ := fit_three fit
  obtain ⟨colon, rfl⟩ := mark_leaf .colon sign
  have joined : Piece.join .dictEntry [key, leaf ⟨.mark .colon, colon⟩, value] =
      ⟨key.placed ++ ⟨.mark .colon, colon⟩ :: value.placed, .plain,
        key.strands || value.strands⟩ := by
    simp [Piece.join, Rule.opening, leaf]
  rw [joined]
  exact TakesExpression.entry takesKey takesValue rfl

/-- A rule for one or more elements with commas between them. -/
theorem separated_passes {α : Type} {element : Parse α} {list : Parse (List α)} {rule : Rule}
    {elementRule : Rule} (unfolds : list = separated element list)
    (alternatives : rule.alternatives = [[.phrase elementRule],
      [.phrase elementRule, .token "COMMA", .phrase rule]])
    (plain : ∀ openings, rule.opening openings = .plain) (other : rule ≠ .expression)
    (elements : ∀ piece, PhraseBehaves elementRule piece →
      TakesUpTo element startsOperand endsExpression piece)
    (lists : ∀ piece, PhraseBehaves rule piece → TakesUpTo list startsOperand endsItem piece)
    (listed : symbols ∈ rule.alternatives) (fit : List.Forall₂ Behaves symbols parts) :
    TakesUpTo list startsOperand endsItem (Piece.join rule parts) := by
  rw [alternatives] at listed
  simp only [List.mem_cons, List.not_mem_nil, or_false] at listed
  rcases listed with rfl | rfl
  · obtain ⟨only, rfl, takes⟩ := fit_one fit
    have joined : Piece.join rule [only] = ⟨only.placed, .plain, only.strands⟩ := by
      simp [Piece.join, plain, other]
    rw [joined]
    have item := TakesUpTo.item unfolds (elements only takes)
    exact ⟨item.starts, item.consumes, item.jams⟩
  · obtain ⟨first, _, others, rfl, takes, sign, takesOthers⟩ := fit_three fit
    obtain ⟨comma, rfl⟩ := mark_leaf .comma sign
    have joined : Piece.join rule [first, leaf ⟨.mark .comma, comma⟩, others] =
        ⟨first.placed ++ ⟨.mark .comma, comma⟩ :: others.placed, .plain,
          first.strands || others.strands⟩ := by
      simp [Piece.join, plain, other, leaf]
    rw [joined]
    exact TakesUpTo.items unfolds (elements first takes) (lists others takesOthers) rfl

theorem functionCall_passes (listed : symbols ∈ Rule.functionCall.alternatives)
    (fit : List.Forall₂ Behaves symbols parts) :
    TakesCall (Piece.join .functionCall parts) := by
  simp only [Rule.alternatives, List.mem_cons, List.not_mem_nil, or_false] at listed
  rcases listed with rfl | rfl
  · obtain ⟨_, _, _, _, rfl, called, first, inside, last⟩ := fit_four fit
    obtain ⟨word, position, rfl⟩ := name_leaf called
    obtain ⟨opened, rfl⟩ := mark_leaf .openParen first
    obtain ⟨closed, rfl⟩ := mark_leaf .closeParen last
    exact takes_call inside word position opened closed
  · obtain ⟨_, _, _, rfl, called, first, last⟩ := fit_three fit
    obtain ⟨word, position, rfl⟩ := name_leaf called
    obtain ⟨opened, rfl⟩ := mark_leaf .openParen first
    obtain ⟨closed, rfl⟩ := mark_leaf .closeParen last
    exact takes_call_empty word position opened closed

/-! ## Statements -/

theorem isStatement_cons {first : Placed} {rest : List Placed} {strands : Bool}
    (starts : startsStatement first.token = true)
    (leaves : LeavesOpen (statements whole) (first :: rest) strands) :
    IsStatement ⟨first :: rest, .plain, strands⟩ :=
  ⟨⟨first, rest, rfl, starts⟩, .of_starts ⟨first, rest, rfl, starts⟩ leaves⟩

theorem IsStatement.plain {piece : Piece} (takes : IsStatement piece) :
    IsStatement ⟨piece.placed, .plain, piece.strands⟩ :=
  ⟨takes.1, ⟨takes.2.ahead, takes.2.leaves⟩⟩

theorem TakesCall.isStatement {piece : Piece} (takes : TakesCall piece) : IsStatement piece := by
  have leaves := takes.statement
  obtain ⟨word, position, opened, inside, same, -⟩ := takes.reads
  exact ⟨⟨_, _, same, rfl⟩, .of_starts ⟨_, _, same, rfl⟩ leaves⟩

theorem assignment_passes (listed : symbols ∈ Rule.assignment.alternatives)
    (fit : List.Forall₂ Behaves symbols parts) :
    IsStatement (Piece.join .assignment parts) := by
  obtain rfl := List.mem_singleton.mp listed
  obtain ⟨_, _, value, rfl, target, sign, takes⟩ := fit_three fit
  obtain ⟨word, position, rfl⟩ := name_leaf target
  obtain ⟨equals, rfl⟩ := mark_leaf .equals sign
  have joined : Piece.join .assignment [leaf ⟨.name word, position⟩, leaf ⟨.mark .equals, equals⟩,
      value] = ⟨⟨.name word, position⟩ :: ⟨.mark .equals, equals⟩ :: value.placed, .plain,
        value.strands⟩ := by
    simp [Piece.join, Rule.opening, leaf]
  rw [joined]
  exact isStatement_cons rfl (TakesExpression.assignment takes word position equals)

theorem returnStatement_passes (listed : symbols ∈ Rule.returnStatement.alternatives)
    (fit : List.Forall₂ Behaves symbols parts) :
    IsStatement (Piece.join .returnStatement parts) := by
  obtain rfl := List.mem_singleton.mp listed
  obtain ⟨_, value, rfl, word, takes⟩ := fit_two fit
  obtain ⟨position, rfl⟩ := keyword_leaf .returnWord word
  have joined : Piece.join .returnStatement [leaf ⟨.keyword .returnWord, position⟩, value] =
      ⟨⟨.keyword .returnWord, position⟩ :: value.placed, .plain, value.strands⟩ := by
    simp [Piece.join, Rule.opening, leaf]
  rw [joined]
  exact isStatement_cons rfl (TakesExpression.yielded takes position)

/-- A rule that makes statements of single phrases that are statements. -/
theorem wrapped_passes {rule : Rule} (wraps : ∀ symbols ∈ rule.alternatives,
      ∃ inner ∈ [Rule.assignment, .functionCall, .returnStatement, .decideStatement, .forStatement,
        .simpleStatement, .compoundStatement], symbols = [.phrase inner])
    (plain : ∀ openings, rule.opening openings = .plain) (other : rule ≠ .expression)
    (listed : symbols ∈ rule.alternatives) (fit : List.Forall₂ Behaves symbols parts) :
    IsStatement (Piece.join rule parts) := by
  obtain ⟨inner, rules, rfl⟩ := wraps symbols listed
  obtain ⟨part, rfl, only⟩ := fit_one fit
  have joined : Piece.join rule [part] = ⟨part.placed, .plain, part.strands⟩ := by
    simp [Piece.join, plain, other]
  rw [joined]
  apply IsStatement.plain
  simp only [List.mem_cons, List.not_mem_nil, or_false] at rules
  rcases rules with rfl | rfl | rfl | rfl | rfl | rfl | rfl
  · exact only
  · exact TakesCall.isStatement only
  all_goals exact only

theorem statementList_passes (listed : symbols ∈ Rule.statementList.alternatives)
    (fit : List.Forall₂ Behaves symbols parts) :
    TakesStatements (Piece.join .statementList parts) := by
  simp only [Rule.alternatives, List.mem_cons, List.not_mem_nil, or_false] at listed
  rcases listed with rfl | rfl | rfl
  · obtain ⟨only, rfl, takes⟩ := fit_one fit
    have joined : Piece.join .statementList [only] = ⟨only.placed, .plain, only.strands⟩ := by
      simp [Piece.join, Rule.opening]
    rw [joined]
    exact (IsStatement.plain takes).2
  · obtain ⟨first, others, rfl, takes, takesOthers⟩ := fit_two fit
    have joined : Piece.join .statementList [first, others] =
        ⟨first.placed ++ others.placed, .plain, first.strands || others.strands⟩ := by
      simp [Piece.join, Rule.opening]
    rw [joined]
    exact TakesStatements.append takes.2 takesOthers
  · obtain ⟨_, rfl, empty⟩ := fit_one fit
    obtain rfl := empty
    exact takes_no_statements

theorem loopBody_passes (listed : symbols ∈ Rule.loopBody.alternatives)
    (fit : List.Forall₂ Behaves symbols parts) :
    IsStatement (Piece.join .loopBody parts) := by
  simp only [Rule.alternatives, List.mem_cons, List.not_mem_nil, or_false] at listed
  rcases listed with rfl | rfl
  · obtain ⟨only, rfl, takes⟩ := fit_one fit
    have joined : Piece.join .loopBody [only] = ⟨only.placed, .plain, only.strands⟩ := by
      simp [Piece.join, Rule.opening]
    rw [joined]
    exact IsStatement.plain takes
  · obtain ⟨first, others, rfl, takes, takesOthers⟩ := fit_two fit
    have joined : Piece.join .loopBody [first, others] =
        ⟨first.placed ++ others.placed, .plain, first.strands || others.strands⟩ := by
      simp [Piece.join, Rule.opening]
    rw [joined]
    exact ⟨takes.1.append _, TakesStatements.append takes.2 takesOthers.2⟩

/-- A branch with a test, behind its first word. -/
theorem branch_passes (rule : Rule) (reserved : Keyword)
    (alternatives : rule.alternatives = [[.token reserved.kindName, .phrase .expression,
      .token "THEN", .token "COLON", .phrase .statementList]])
    (plain : ∀ openings, rule.opening openings = .plain) (other : rule ≠ .expression)
    (listed : symbols ∈ rule.alternatives) (fit : List.Forall₂ Behaves symbols parts) :
    ∃ position inside strands, TakesBranch inside strands ∧
      Piece.join rule parts = ⟨⟨.keyword reserved, position⟩ :: inside, .plain, strands⟩ := by
  rw [alternatives] at listed
  obtain rfl := List.mem_singleton.mp listed
  obtain ⟨_, _, rfl, first, fitRest⟩ := fit_cons fit
  obtain ⟨test, _, _, body, rfl, takesTest, word, sign, takesBody⟩ := fit_four fitRest
  obtain ⟨position, rfl⟩ := keyword_leaf reserved first
  obtain ⟨middle, rfl⟩ := keyword_leaf .thenWord word
  obtain ⟨colon, rfl⟩ := mark_leaf .colon sign
  refine ⟨position, _, _, (leavesOpen_branch takesTest takesBody middle colon).takesBranch, ?_⟩
  simp [Piece.join, plain, other, leaf]

theorem elseCondition_passes (listed : symbols ∈ Rule.elseCondition.alternatives)
    (fit : List.Forall₂ Behaves symbols parts) :
    EndsChoice (Piece.join .elseCondition parts) := by
  obtain rfl := List.mem_singleton.mp listed
  obtain ⟨_, _, body, rfl, first, sign, takes⟩ := fit_three fit
  obtain ⟨position, rfl⟩ := keyword_leaf .elseWord first
  obtain ⟨colon, rfl⟩ := mark_leaf .colon sign
  have joined : Piece.join .elseCondition [leaf ⟨.keyword .elseWord, position⟩,
      leaf ⟨.mark .colon, colon⟩, body] =
      ⟨⟨.keyword .elseWord, position⟩ :: ⟨.mark .colon, colon⟩ :: body.placed, .plain,
        body.strands⟩ := by
    simp [Piece.join, Rule.opening, leaf]
  rw [joined]
  exact TakesStatements.elseBranch takes position colon

theorem elifList_passes (listed : symbols ∈ Rule.elifList.alternatives)
    (fit : List.Forall₂ Behaves symbols parts) :
    ExtendsChoice (Piece.join .elifList parts) := by
  simp only [Rule.alternatives, List.mem_cons, List.not_mem_nil, or_false] at listed
  rcases listed with rfl | rfl
  · obtain ⟨only, rfl, takes⟩ := fit_one fit
    have joined : Piece.join .elifList [only] = ⟨only.placed, .plain, only.strands⟩ := by
      simp [Piece.join, Rule.opening]
    rw [joined]
    exact ⟨takes.ahead, takes.runs, takes.jams⟩
  · obtain ⟨first, others, rfl, takes, takesOthers⟩ := fit_two fit
    have joined : Piece.join .elifList [first, others] =
        ⟨first.placed ++ others.placed, .plain, first.strands || others.strands⟩ := by
      simp [Piece.join, Rule.opening]
    rw [joined]
    exact ChangesChoices.after takes takesOthers (by omega)

theorem conditionList_passes (listed : symbols ∈ Rule.conditionList.alternatives)
    (fit : List.Forall₂ Behaves symbols parts) :
    PhraseBehaves .conditionList (Piece.join .conditionList parts) := by
  simp only [Rule.alternatives, List.mem_cons, List.not_mem_nil, or_false] at listed
  rcases listed with rfl | rfl | rfl | rfl
  · obtain ⟨first, rfl, position, inside, same, takes⟩ := fit_one fit
    refine ⟨position, inside, ?_, ?_⟩
    · simp [Piece.join, same]
    · simpa [Piece.join] using takes.alone
  · obtain ⟨first, others, rfl, ⟨position, inside, same, takes⟩, changes⟩ := fit_two fit
    refine ⟨position, inside ++ others.placed, ?_, ?_⟩
    · simp [Piece.join, same]
    · simpa [Piece.join] using takes.before changes
  · obtain ⟨first, elifs, last, rfl, ⟨position, inside, same, takes⟩, extension, ends⟩ :=
      fit_three fit
    have changes := ChangesChoices.after extension ends (by omega)
    refine ⟨position, inside ++ (elifs.placed ++ last.placed), ?_, ?_⟩
    · simp [Piece.join, same]
    · simpa [Piece.join] using takes.before changes
  · obtain ⟨first, others, rfl, ⟨position, inside, same, takes⟩, changes⟩ := fit_two fit
    refine ⟨position, inside ++ others.placed, ?_, ?_⟩
    · simp [Piece.join, same]
    · simpa [Piece.join] using takes.before changes

theorem decideStatement_passes (listed : symbols ∈ Rule.decideStatement.alternatives)
    (fit : List.Forall₂ Behaves symbols parts) :
    IsStatement (Piece.join .decideStatement parts) := by
  obtain rfl := List.mem_singleton.mp listed
  obtain ⟨_, _, conditions, rfl, first, sign, position, inside, same, takes⟩ := fit_three fit
  obtain ⟨start, rfl⟩ := keyword_leaf .decide first
  obtain ⟨colon, rfl⟩ := mark_leaf .colon sign
  have joined : Piece.join .decideStatement [leaf ⟨.keyword .decide, start⟩,
      leaf ⟨.mark .colon, colon⟩, conditions] =
      ⟨⟨.keyword .decide, start⟩ :: ⟨.mark .colon, colon⟩ :: ⟨.keyword .ifWord, position⟩ :: inside,
        .plain, conditions.strands⟩ := by
    simp [Piece.join, Rule.opening, leaf, same]
  rw [joined]
  exact isStatement_cons rfl (takes.decided start colon position)

theorem iterable_passes (listed : symbols ∈ Rule.iterable.alternatives)
    (fit : List.Forall₂ Behaves symbols parts) :
    TakesSource (Piece.join .iterable parts) := by
  simp only [Rule.alternatives, List.mem_cons, List.not_mem_nil, or_false] at listed
  rcases listed with rfl | rfl | rfl
  · obtain ⟨_, rfl, only⟩ := fit_one fit
    obtain ⟨word, position, rfl⟩ := name_leaf only
    exact takesSource_name word position
  · obtain ⟨_, _, bound, _, rfl, first, left, takes, right⟩ := fit_four fit
    obtain ⟨start, rfl⟩ := keyword_leaf .range first
    obtain ⟨opened, rfl⟩ := mark_leaf .openParen left
    obtain ⟨closed, rfl⟩ := mark_leaf .closeParen right
    have joined : Piece.join .iterable [leaf ⟨.keyword .range, start⟩,
        leaf ⟨.mark .openParen, opened⟩, bound, leaf ⟨.mark .closeParen, closed⟩] =
        ⟨⟨.keyword .range, start⟩ :: ⟨.mark .openParen, opened⟩ ::
          (bound.placed ++ [⟨.mark .closeParen, closed⟩]), .plain, bound.strands⟩ := by
      simp [Piece.join, Rule.opening, leaf]
    rw [joined]
    exact TakesExpression.range takes start opened closed
  · obtain ⟨_, _, _, _, rfl, first, left, named, right⟩ := fit_four fit
    obtain ⟨start, rfl⟩ := keyword_leaf .enumerate first
    obtain ⟨opened, rfl⟩ := mark_leaf .openParen left
    obtain ⟨word, position, rfl⟩ := name_leaf named
    obtain ⟨closed, rfl⟩ := mark_leaf .closeParen right
    exact takesSource_enumerated word start opened position closed

/-- No token is an underscore on its own: as a lexeme it is a name. -/
theorem kindName_ne_underscore (token : Token) : token.kindName ≠ "UNDERSCORE" := by
  cases token with
  | mark sign => cases sign <;> decide
  | keyword reserved => cases reserved <;> decide
  | _ => simp [Token.kindName]

theorem forStatement_passes (listed : symbols ∈ Rule.forStatement.alternatives)
    (fit : List.Forall₂ Behaves symbols parts) :
    IsStatement (Piece.join .forStatement parts) := by
  simp only [Rule.alternatives, List.mem_cons, List.not_mem_nil, or_false] at listed
  rcases listed with rfl | rfl | rfl | rfl
  all_goals
    obtain ⟨_, _, rfl, first, fit₁⟩ := fit_cons fit
    obtain ⟨_, _, rfl, second, fit₂⟩ := fit_cons fit₁
    obtain ⟨_, _, rfl, third, fit₃⟩ := fit_cons fit₂
    obtain ⟨start, rfl⟩ := keyword_leaf .forWord first
  · obtain ⟨source, _, body, _, rfl, takes, sign, takesBody, last⟩ := fit_four fit₃
    obtain ⟨item, position, rfl⟩ := name_leaf second
    obtain ⟨word, rfl⟩ := keyword_leaf .inWord third
    obtain ⟨colon, rfl⟩ := mark_leaf .colon sign
    obtain ⟨ends, rfl⟩ := keyword_leaf .endWord last
    have leaves := TakesSource.loop takes takesBody.2 takesBody.1 item start position word colon ends
    have joined := isStatement_cons rfl leaves
    simpa [Piece.join, Rule.opening, leaf] using joined
  · obtain ⟨index, place, rfl⟩ := name_leaf second
    obtain ⟨comma, rfl⟩ := mark_leaf .comma third
    obtain ⟨_, _, rfl, fourth, fit₄⟩ := fit_cons fit₃
    obtain ⟨_, _, rfl, fifth, fit₅⟩ := fit_cons fit₄
    obtain ⟨_, _, rfl, sixth, fit₆⟩ := fit_cons fit₅
    obtain ⟨_, _, rfl, seventh, fit₇⟩ := fit_cons fit₆
    obtain ⟨_, _, rfl, eighth, fit₈⟩ := fit_cons fit₇
    obtain ⟨_, _, body, _, rfl, ninth, sign, takesBody, last⟩ := fit_four fit₈
    obtain ⟨element, p₄, rfl⟩ := name_leaf fourth
    obtain ⟨p₅, rfl⟩ := keyword_leaf .inWord fifth
    obtain ⟨p₆, rfl⟩ := keyword_leaf .enumerate sixth
    obtain ⟨p₇, rfl⟩ := mark_leaf .openParen seventh
    obtain ⟨collection, p₈, rfl⟩ := name_leaf eighth
    obtain ⟨p₉, rfl⟩ := mark_leaf .closeParen ninth
    obtain ⟨colon, rfl⟩ := mark_leaf .colon sign
    obtain ⟨ends, rfl⟩ := keyword_leaf .endWord last
    have leaves := TakesStatements.enumeration takesBody.2 takesBody.1 index element collection
      start place comma p₄ p₅ p₆ p₇ p₈ p₉ colon ends
    have joined := isStatement_cons rfl leaves
    simpa [Piece.join, Rule.opening, leaf] using joined
  · obtain ⟨placed, -, kind⟩ := second
    exact absurd kind (kindName_ne_underscore _)
  · obtain ⟨item, position, rfl⟩ := name_leaf second
    obtain ⟨word, rfl⟩ := keyword_leaf .inWord third
    obtain ⟨_, _, rfl, fourth, fit₄⟩ := fit_cons fit₃
    obtain ⟨_, _, rfl, fifth, fit₅⟩ := fit_cons fit₄
    obtain ⟨bound, _, rfl, takes, fit₆⟩ := fit_cons fit₅
    obtain ⟨_, _, body, _, rfl, seventh, sign, takesBody, last⟩ := fit_four fit₆
    obtain ⟨range, rfl⟩ := keyword_leaf .range fourth
    obtain ⟨opened, rfl⟩ := mark_leaf .openParen fifth
    obtain ⟨closed, rfl⟩ := mark_leaf .closeParen seventh
    obtain ⟨colon, rfl⟩ := mark_leaf .colon sign
    obtain ⟨ends, rfl⟩ := keyword_leaf .endWord last
    have source := TakesExpression.range takes range opened closed
    have leaves := source.loop takesBody.2 takesBody.1 item start position word colon ends
    have joined := isStatement_cons rfl leaves
    simpa [Piece.join, Rule.opening, leaf] using joined

/-! ## Tasks and programs -/

/-- A step or subtask, which differ in their first word. -/
theorem titled_passes {rule : Rule} (reserved : Keyword) {build : String → List Stmt → Item}
    (alternatives : rule.alternatives = [[.token reserved.kindName, .token "STRING",
      .token "COLON", .phrase .statementList]])
    (plain : ∀ openings, rule.opening openings = .plain) (other : rule ≠ .expression)
    (known : itemAfter whole (.keyword reserved) = some (titled whole build))
    (starts : startsItem (.keyword reserved) = true)
    (listed : symbols ∈ rule.alternatives) (fit : List.Forall₂ Behaves symbols parts) :
    Accepts (choose (itemAfter whole) stuck) startsItem endsBody (Piece.join rule parts) := by
  rw [alternatives] at listed
  obtain rfl := List.mem_singleton.mp listed
  obtain ⟨_, _, _, body, rfl, first, title, sign, takes⟩ := fit_four fit
  obtain ⟨start, rfl⟩ := keyword_leaf reserved first
  obtain ⟨content, position, rfl⟩ := text_leaf title
  obtain ⟨colon, rfl⟩ := mark_leaf .colon sign
  have joined : Piece.join rule [leaf ⟨.keyword reserved, start⟩, leaf ⟨.text content, position⟩,
      leaf ⟨.mark .colon, colon⟩, body] =
      ⟨⟨.keyword reserved, start⟩ :: ⟨.text content, position⟩ :: ⟨.mark .colon, colon⟩ ::
        body.placed, .plain, body.strands⟩ := by
    simp [Piece.join, plain, other, leaf]
  rw [joined]
  exact TakesStatements.titled takes known starts position colon

/-- A rule for one or more phrases that tell by their first token that one follows. -/
theorem repeated_passes (rule inner : Rule) {α : Type} {element : Parse α} {list : Parse (List α)}
    {test : Token → Bool} (stops : Token → Bool) (unfolds : list = repeated element test list)
    (unlike : ∀ token, isOperator token = true → test token = false)
    (stopped : ∀ token, test token = true → stops token = true)
    (plain : ∀ openings, rule.opening openings = .plain) (other : rule ≠ .expression)
    (elements : ∀ piece, PhraseBehaves inner piece → Accepts element test stops piece)
    (lists : ∀ piece, PhraseBehaves rule piece →
      Accepts list test (fun token => stops token && !test token) piece)
    (form : symbols = [.phrase inner] ∨ symbols = [.phrase inner, .phrase rule])
    (fit : List.Forall₂ Behaves symbols parts) :
    Accepts list test (fun token => stops token && !test token) (Piece.join rule parts) := by
  rcases form with rfl | rfl
  · obtain ⟨only, rfl, takes⟩ := fit_one fit
    have joined : Piece.join rule [only] = ⟨only.placed, .plain, only.strands⟩ := by
      simp [Piece.join, plain, other]
    rw [joined]
    have single := Accepts.single unfolds unlike (elements only takes)
    exact ⟨single.starts, single.reads, single.jams⟩
  · obtain ⟨first, others, rfl, takes, takesOthers⟩ := fit_two fit
    have joined : Piece.join rule [first, others] =
        ⟨first.placed ++ others.placed, .plain, first.strands || others.strands⟩ := by
      simp [Piece.join, plain, other]
    rw [joined]
    exact Accepts.cons unfolds unlike stopped (elements first takes) (lists others takesOthers)

theorem startsItem_of_isOperator {token : Token} (known : isOperator token = true) :
    startsItem token = false := by
  cases token with
  | mark sign => rfl
  | _ => cases known

theorem endsBody_of_startsItem {token : Token} (starts : startsItem token = true) :
    endsBody token = true := by
  have either : token = .keyword .step ∨ token = .keyword .subtask := by
    simpa [startsItem] using starts
  rcases either with rfl | rfl <;> rfl

theorem itemList_passes (listed : symbols ∈ Rule.itemList.alternatives)
    (fit : List.Forall₂ Behaves symbols parts) :
    Accepts (items whole) startsItem endsItems (Piece.join .itemList parts) := by
  have forms : ∀ symbols ∈ Rule.itemList.alternatives, ∃ inner ∈ [Rule.step, .subtask],
      symbols = [.phrase inner] ∨ symbols = [.phrase inner, .phrase .itemList] := by
    decide
  obtain ⟨inner, either, form⟩ := forms symbols listed
  have elements : ∀ piece, PhraseBehaves inner piece →
      Accepts (choose (itemAfter whole) stuck) startsItem endsBody piece := by
    intro piece behaves
    simp only [List.mem_cons, List.not_mem_nil, or_false] at either
    rcases either with rfl | rfl <;> exact behaves
  exact repeated_passes .itemList inner endsBody items_whole (fun _ => startsItem_of_isOperator)
    (fun _ => endsBody_of_startsItem) (fun _ => rfl) nofun elements (fun _ behaves => behaves)
    form fit

theorem task_passes (listed : symbols ∈ Rule.task.alternatives)
    (fit : List.Forall₂ Behaves symbols parts) :
    Accepts task (· = .keyword .task) endsItems (Piece.join .task parts) := by
  obtain rfl := List.mem_singleton.mp listed
  obtain ⟨_, _, _, body, rfl, first, title, sign, accepts⟩ := fit_four fit
  obtain ⟨start, rfl⟩ := keyword_leaf .task first
  obtain ⟨content, position, rfl⟩ := text_leaf title
  obtain ⟨colon, rfl⟩ := mark_leaf .colon sign
  have joined : Piece.join .task [leaf ⟨.keyword .task, start⟩, leaf ⟨.text content, position⟩,
      leaf ⟨.mark .colon, colon⟩, body] =
      ⟨⟨.keyword .task, start⟩ :: ⟨.text content, position⟩ :: ⟨.mark .colon, colon⟩ ::
        body.placed, .plain, body.strands⟩ := by
    simp [Piece.join, Rule.opening, leaf]
  rw [joined]
  exact Accepts.task accepts start position colon

theorem taskList_passes (listed : symbols ∈ Rule.taskList.alternatives)
    (fit : List.Forall₂ Behaves symbols parts) :
    Accepts (tasks whole) (· = .keyword .task) endsTasks (Piece.join .taskList parts) := by
  simp only [Rule.alternatives, List.mem_cons, List.not_mem_nil, or_false] at listed
  apply repeated_passes .taskList .task endsItems tasks_whole _ _ (fun _ => rfl) nofun
    (fun _ behaves => behaves) (fun _ behaves => behaves) listed fit
  · intro token known
    simpa using ne_of_isOperator known rfl
  · intro token starts
    obtain rfl : token = .keyword .task := by simpa using starts
    rfl

theorem runStatement_passes (listed : symbols ∈ Rule.runStatement.alternatives)
    (fit : List.Forall₂ Behaves symbols parts) :
    PhraseBehaves .runStatement (Piece.join .runStatement parts) := by
  obtain rfl := List.mem_singleton.mp listed
  obtain ⟨_, _, rfl, first, title⟩ := fit_two fit
  obtain ⟨start, rfl⟩ := keyword_leaf .run first
  obtain ⟨content, position, rfl⟩ := text_leaf title
  exact ⟨rfl, accepts_run start position⟩

theorem runList_passes (listed : symbols ∈ Rule.runList.alternatives)
    (fit : List.Forall₂ Behaves symbols parts) :
    PhraseBehaves .runList (Piece.join .runList parts) := by
  simp only [Rule.alternatives, List.mem_cons, List.not_mem_nil, or_false] at listed
  have free : (Piece.join .runList parts).strands = false := by
    rcases listed with rfl | rfl
    · obtain ⟨only, rfl, free, -⟩ := fit_one fit
      simp [Piece.join, free]
    · obtain ⟨first, others, rfl, ⟨free, -⟩, freeOthers, -⟩ := fit_two fit
      simp [Piece.join, free, freeOthers]
  refine ⟨free, ?_⟩
  have accepts := repeated_passes .runList .runStatement (fun _ => true) runs_whole
    (fun token known => by simpa using ne_of_isOperator known rfl) (fun _ _ => rfl)
    (fun _ => rfl) nofun (fun _ behaves => behaves.2) (fun _ behaves => by simpa using behaves.2)
    listed fit
  simpa using accepts

theorem objective_passes (listed : symbols ∈ Rule.objective.alternatives)
    (fit : List.Forall₂ Behaves symbols parts) :
    PhraseBehaves .objective (Piece.join .objective parts) := by
  obtain rfl := List.mem_singleton.mp listed
  obtain ⟨_, _, rfl, first, title⟩ := fit_two fit
  obtain ⟨start, rfl⟩ := keyword_leaf .objective first
  obtain ⟨content, position, rfl⟩ := text_leaf title
  exact ⟨content, start, position, rfl⟩

theorem program_passes (listed : symbols ∈ Rule.program.alternatives)
    (fit : List.Forall₂ Behaves symbols parts) :
    AcceptsProgram (Piece.join .program parts) := by
  obtain rfl := List.mem_singleton.mp listed
  obtain ⟨_, tasks, runs, rfl, objective, acceptsTasks, free, acceptsRuns⟩ := fit_three fit
  obtain ⟨content, first, position, rfl⟩ := objective
  have joined : Piece.join .program [⟨[⟨.keyword .objective, first⟩, ⟨.text content, position⟩],
      .plain, false⟩, tasks, runs] = ⟨⟨.keyword .objective, first⟩ :: ⟨.text content, position⟩ ::
        (tasks.placed ++ runs.placed), .plain, tasks.strands⟩ := by
    simp [Piece.join, Rule.opening, free]
  rw [joined]
  exact accepts_program first position acceptsTasks acceptsRuns free

end

/-- Every rule passes on what its parts do. -/
theorem phrase_passes (rule : Rule) {symbols : List Symbol} {parts : List Piece}
    (listed : symbols ∈ rule.alternatives) (fit : List.Forall₂ Behaves symbols parts) :
    PhraseBehaves rule.subject (Piece.join rule parts) := by
  cases rule with
  | program => exact program_passes listed fit
  | objective => exact objective_passes listed fit
  | taskList => exact taskList_passes listed fit
  | task => exact task_passes listed fit
  | itemList => exact itemList_passes listed fit
  | step => exact titled_passes .step rfl (fun _ => rfl) nofun rfl rfl listed fit
  | subtask => exact titled_passes .subtask rfl (fun _ => rfl) nofun rfl rfl listed fit
  | statement => exact wrapped_passes (by decide) (fun _ => rfl) nofun listed fit
  | simpleStatement => exact wrapped_passes (by decide) (fun _ => rfl) nofun listed fit
  | compoundStatement => exact wrapped_passes (by decide) (fun _ => rfl) nofun listed fit
  | statementList => exact statementList_passes listed fit
  | returnStatement => exact returnStatement_passes listed fit
  | empty =>
      obtain rfl := List.mem_singleton.mp listed
      obtain rfl := List.forall₂_nil_left_iff.mp fit
      rfl
  | decideStatement => exact decideStatement_passes listed fit
  | conditionList => exact conditionList_passes listed fit
  | elifList => exact elifList_passes listed fit
  | ifCondition =>
      obtain ⟨position, inside, strands, takes, joined⟩ :=
        branch_passes .ifCondition .ifWord rfl (fun _ => rfl) nofun listed fit
      rw [joined]
      exact ⟨position, inside, rfl, takes⟩
  | elifCondition =>
      obtain ⟨position, inside, strands, takes, joined⟩ :=
        branch_passes .elifCondition .elif rfl (fun _ => rfl) nofun listed fit
      rw [joined]
      exact takes.elif position
  | elseCondition => exact elseCondition_passes listed fit
  | forStatement => exact forStatement_passes listed fit
  | loopBody => exact loopBody_passes listed fit
  | iterable => exact iterable_passes listed fit
  | indexing => exact indexing_passes listed fit
  | assignment => exact assignment_passes listed fit
  | expression => exact expression_passes listed fit
  | primary => exact primary_passes listed fit
  | arithmetic => exact arithmetic_passes listed fit
  | comparison => exact comparison_passes listed fit
  | term => exact term_passes listed fit
  | factor => exact factor_passes listed fit
  | dictLiteral => exact dictLiteral_passes listed fit
  | dictEntries =>
      exact separated_passes entries_whole rfl (fun _ => rfl) nofun (fun _ takes => takes)
        (fun _ takes => takes) listed fit
  | dictEntry => exact dictEntry_passes listed fit
  | indexExpression => exact indexExpression_passes listed fit
  | list => exact list_passes listed fit
  | listItems =>
      exact separated_passes expressions_whole rfl (fun _ => rfl) nofun
        (fun _ takes => TakesExpression.upTo takes) (fun _ takes => takes) listed fit
  | functionCall => exact functionCall_passes listed fit
  | argumentList =>
      exact separated_passes expressions_whole rfl (fun _ => rfl) nofun
        (fun _ takes => TakesExpression.upTo takes) (fun _ takes => takes) listed fit
  | runList => exact runList_passes listed fit
  | runStatement => exact runStatement_passes listed fit
  | literal | number | arrayAccess | numericLiteral => trivial

theorem behaves_passesUp : PassesUp Behaves where
  token placed := ⟨placed, rfl, rfl⟩
  phrase rule _ _ listed fit := phrase_passes rule listed fit

end Parse

/-- Tokens with a derivation as a program are accepted exactly if the derivation strands no
operator. -/
theorem parseTokens_accepts_iff (derivation : Derivation (.phrase .program))
    (tokens : List Placed) (spelled : tokens.map Placed.token = derivation.tokens) :
    (∃ program, parseTokens tokens = .ok program) ↔ derivation.strands = false := by
  have accepts : Parse.AcceptsProgram ⟨tokens, derivation.opening, derivation.strands⟩ :=
    derivation.piece_induction Parse.behaves_passesUp tokens spelled
  constructor
  · rintro ⟨program, parsed⟩
    rw [parseTokens_eq_ok] at parsed
    by_contra strands
    obtain ⟨stop, failed⟩ := accepts.fails (by simpa using strands)
    rw [parsed] at failed
    cases failed
  · intro free
    obtain ⟨program, read⟩ := accepts.reads free
    exact ⟨program, parseTokens_eq_ok.mpr read⟩

/-! ## The two sides of a sum -/

namespace Grammar

/-- A phrase with one part. -/
def Derivation.single (rule : Rule) {symbol : Symbol} (part : Derivation symbol)
    (listed : [symbol] ∈ rule.alternatives) : Derivation (.phrase rule.subject) :=
  .phrase rule listed (.cons part .nil)

/-- A primary expression as a term. -/
def Derivation.term (primary : Derivation (.phrase .primary)) : Derivation (.phrase .term) :=
  .single .term (.single .factor primary (by decide)) (by decide)

/-- The sum of two primary expressions, as an expression. -/
def Derivation.sum (left right : Derivation (.phrase .primary)) :
    Derivation (.phrase .expression) :=
  .single .expression
    (.phrase .arithmetic (by decide) (.cons (.single .arithmetic left.term (by decide))
      (.cons (.token (.mark .plus)) (.cons right.term .nil))))
    (by decide)

/-- A primary expression as an expression. -/
def Derivation.expression (primary : Derivation (.phrase .primary)) :
    Derivation (.phrase .expression) :=
  .single .expression (.single .arithmetic primary.term (by decide)) (by decide)

/-- The number one. -/
def Derivation.one : Derivation (.phrase .primary) :=
  .single .primary (.token (.int 1)) (by decide)

/-- The first item of a list, which is given by a name in parentheses. -/
def Derivation.firstOfGroup : Derivation (.phrase .primary) :=
  let name : Derivation (.phrase .primary) := .single .primary (.token (.name "a")) (by decide)
  let zero : Derivation (.phrase .primary) := .single .primary (.token (.int 0)) (by decide)
  let group : Derivation (.phrase .primary) :=
    .phrase .primary (by decide) (.cons (.token (.mark .openParen)) (.cons name.expression
      (.cons (.token (.mark .closeParen)) .nil)))
  .single .primary
    (.phrase .indexExpression (by decide) (.cons group (.cons (.token (.mark .openBracket))
      (.cons zero.expression (.cons (.token (.mark .closeBracket)) .nil)))))
    (by decide)

/-- A program whose only statement assigns the value of an expression. -/
def Derivation.assigning (value : Derivation (.phrase .expression)) :
    Derivation (.phrase .program) :=
  let statement : Derivation (.phrase .statement) :=
    .single .statement
      (.single .simpleStatement
        (.phrase .assignment (by decide) (.cons (.token (.name "x"))
          (.cons (.token (.mark .equals)) (.cons value .nil))))
        (by decide))
      (by decide)
  let step : Derivation (.phrase .step) :=
    .phrase .step (by decide) (.cons (.token (.keyword .step)) (.cons (.token (.text "s"))
      (.cons (.token (.mark .colon))
        (.cons (.single .statementList statement (by decide)) .nil))))
  let task : Derivation (.phrase .task) :=
    .phrase .task (by decide) (.cons (.token (.keyword .task)) (.cons (.token (.text "t"))
      (.cons (.token (.mark .colon)) (.cons (.single .itemList step (by decide)) .nil))))
  let objective : Derivation (.phrase .objective) :=
    .phrase .objective (by decide) (.cons (.token (.keyword .objective))
      (.cons (.token (.text "o")) .nil))
  let run : Derivation (.phrase .runStatement) :=
    .phrase .runStatement (by decide) (.cons (.token (.keyword .run))
      (.cons (.token (.text "t")) .nil))
  .phrase .program (by decide) (.cons objective (.cons (.single .taskList task (by decide))
    (.cons (.single .runList run (by decide)) .nil)))

end Grammar

/-- An indexed group may be the right operand of a sum. -/
theorem parseTokens_accepts_right :
    let source := "objective \"o\"\ntask \"t\":\nstep \"s\":\nx = 1 + (a)[0]\nrun \"t\""
    let derivation := Derivation.assigning (.sum .one .firstOfGroup)
    (lex source).tokens.map Placed.token = derivation.tokens ∧ derivation.strands = false ∧
      ∃ program, parseTokens (lex source).tokens = .ok program := by
  intro source derivation
  have spelled : (lex source).tokens.map Placed.token = derivation.tokens := by decide +kernel
  have free : derivation.strands = false := by decide +kernel
  exact ⟨spelled, free, (parseTokens_accepts_iff derivation _ spelled).mpr free⟩

/-- As the left operand of the same sum it is not accepted, although the text has a derivation and the
derivation a value. -/
theorem parseTokens_rejects_left :
    let source := "objective \"o\"\ntask \"t\":\nstep \"s\":\nx = (a)[0] + 1\nrun \"t\""
    let derivation := Derivation.assigning (.sum .firstOfGroup .one)
    (lex source).tokens.map Placed.token = derivation.tokens ∧ derivation.strands = true ∧
      derivation.value.toBool = true ∧
      (¬ ∃ program, parseTokens (lex source).tokens = .ok program) ∧
      ¬ ∃ program, (Program.read source).outcome = .ok program := by
  intro source derivation
  have fails : (parseTokens (lex source).tokens).toBool = false := by decide +kernel
  have failsRead : (Program.read source).outcome.toBool = false := by decide +kernel
  refine ⟨by decide +kernel, by decide +kernel, by decide +kernel, ?_, ?_⟩
  · rintro ⟨program, parsed⟩
    rw [parsed] at fails
    cases fails
  · rintro ⟨program, read⟩
    rw [read] at failsRead
    cases failsRead

end Stepwise
