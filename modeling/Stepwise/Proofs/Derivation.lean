import Stepwise.Grammar.Rule
import Stepwise.Token.Basic

/-!
# Derivations

A derivation of a phrase is a tree whose nodes are alternatives of the rules of the grammar and whose
leaves are tokens.  The index of a derivation is the symbol it derives, so a tree in which the parts
of a phrase do not fit its rule cannot be built.  A derivation spells a list of tokens, and the rules
give it a value, from the leaves up.

The grammar is ambiguous: one list of tokens may have many derivations.
-/

namespace Stepwise.Grammar

/-- A symbol of the grammar: a token, by the name of its kind, or a phrase, by the main rule for
it. -/
inductive Symbol where
  | token (kind : String)
  | phrase (rule : Rule)
  deriving DecidableEq, Repr

/-- The main rule for the phrase that a rule builds. Only looking up a key in an expression has a rule
beside the main one. -/
def Rule.subject : Rule → Rule
  | .indexing => .expression
  | rule => rule

/-- The name of the phrase that a rule builds. -/
def Rule.phraseName : Rule → String
  | .program => "program"
  | .objective => "objective"
  | .taskList => "task_list"
  | .task => "task"
  | .itemList => "step_or_subtask_list"
  | .step => "step"
  | .subtask => "subtask"
  | .statement => "statement"
  | .simpleStatement => "simple_statement"
  | .compoundStatement => "compound_statement"
  | .statementList => "statement_list"
  | .returnStatement => "return_statement"
  | .empty => "empty"
  | .decideStatement => "decide_statement"
  | .conditionList => "condition_list"
  | .elifList => "else_if_list"
  | .ifCondition => "if_condition"
  | .elifCondition => "else_if_condition"
  | .elseCondition => "else_condition"
  | .forStatement => "for_statement"
  | .loopBody => "loop_body"
  | .iterable => "iterable"
  | .indexing => "expression"
  | .assignment => "assignment"
  | .expression => "expression"
  | .primary => "primary_expr"
  | .literal => "literal"
  | .number => "number"
  | .arrayAccess => "array_access"
  | .arithmetic => "arithmetic_expr"
  | .comparison => "comparison_expr"
  | .term => "term"
  | .factor => "factor"
  | .numericLiteral => "numeric_literal"
  | .dictLiteral => "dict_literal"
  | .dictEntries => "dict_entries"
  | .dictEntry => "dict_entry"
  | .indexExpression => "index_expression"
  | .list => "list"
  | .listItems => "list_items"
  | .functionCall => "function_call"
  | .argumentList => "argument_list"
  | .runList => "run_list"
  | .runStatement => "run_statement"

/-- The name of a symbol. -/
def Symbol.name : Symbol → String
  | .token kind => kind
  | .phrase rule => rule.phraseName

/-- The alternatives of a rule, each a list of symbols. -/
def Rule.alternatives : Rule → List (List Symbol)
  | .program => [[.phrase .objective, .phrase .taskList, .phrase .runList]]
  | .objective => [[.token "OBJECTIVE", .token "STRING"]]
  | .taskList => [[.phrase .task], [.phrase .task, .phrase .taskList]]
  | .task => [[.token "TASK", .token "STRING", .token "COLON", .phrase .itemList]]
  | .itemList =>
    [[.phrase .step], [.phrase .subtask], [.phrase .step, .phrase .itemList],
      [.phrase .subtask, .phrase .itemList]]
  | .step => [[.token "STEP", .token "STRING", .token "COLON", .phrase .statementList]]
  | .subtask => [[.token "SUBTASK", .token "STRING", .token "COLON", .phrase .statementList]]
  | .statement => [[.phrase .simpleStatement], [.phrase .compoundStatement]]
  | .simpleStatement =>
    [[.phrase .assignment], [.phrase .functionCall], [.phrase .returnStatement]]
  | .compoundStatement => [[.phrase .decideStatement], [.phrase .forStatement]]
  | .statementList =>
    [[.phrase .statement], [.phrase .statement, .phrase .statementList], [.phrase .empty]]
  | .returnStatement => [[.token "RETURN", .phrase .expression]]
  | .empty => [[]]
  | .decideStatement => [[.token "DECIDE", .token "COLON", .phrase .conditionList]]
  | .conditionList =>
    [[.phrase .ifCondition], [.phrase .ifCondition, .phrase .elifList],
      [.phrase .ifCondition, .phrase .elifList, .phrase .elseCondition],
      [.phrase .ifCondition, .phrase .elseCondition]]
  | .elifList => [[.phrase .elifCondition], [.phrase .elifCondition, .phrase .elifList]]
  | .ifCondition =>
    [[.token "IF", .phrase .expression, .token "THEN", .token "COLON", .phrase .statementList]]
  | .elifCondition =>
    [[.token "ELIF", .phrase .expression, .token "THEN", .token "COLON", .phrase .statementList]]
  | .elseCondition => [[.token "ELSE", .token "COLON", .phrase .statementList]]
  | .forStatement =>
    [[.token "FOR", .token "IDENTIFIER", .token "IN", .phrase .iterable, .token "COLON",
        .phrase .loopBody, .token "END"],
      [.token "FOR", .token "IDENTIFIER", .token "COMMA", .token "IDENTIFIER", .token "IN",
        .token "ENUMERATE", .token "LPAREN", .token "IDENTIFIER", .token "RPAREN", .token "COLON",
        .phrase .loopBody, .token "END"],
      [.token "FOR", .token "UNDERSCORE", .token "COMMA", .token "IDENTIFIER", .token "IN",
        .token "ENUMERATE", .token "LPAREN", .token "IDENTIFIER", .token "RPAREN", .token "COLON",
        .phrase .loopBody, .token "END"],
      [.token "FOR", .token "IDENTIFIER", .token "IN", .token "RANGE", .token "LPAREN",
        .phrase .expression, .token "RPAREN", .token "COLON", .phrase .loopBody, .token "END"]]
  | .loopBody => [[.phrase .statement], [.phrase .statement, .phrase .loopBody]]
  | .iterable =>
    [[.token "IDENTIFIER"],
      [.token "RANGE", .token "LPAREN", .phrase .expression, .token "RPAREN"],
      [.token "ENUMERATE", .token "LPAREN", .token "IDENTIFIER", .token "RPAREN"]]
  | .indexing =>
    [[.phrase .expression, .token "LBRACKET", .phrase .expression, .token "RBRACKET"]]
  | .assignment => [[.token "IDENTIFIER", .token "EQUALS", .phrase .expression]]
  | .expression =>
    [[.phrase .arithmetic], [.phrase .comparison],
      [.token "LPAREN", .phrase .expression, .token "RPAREN"]]
  | .primary =>
    [[.token "IDENTIFIER"], [.token "NUMBER"], [.token "STRING"], [.token "BOOL"],
      [.token "FLOAT"], [.phrase .list], [.phrase .functionCall],
      [.token "LPAREN", .phrase .expression, .token "RPAREN"], [.phrase .dictLiteral],
      [.phrase .indexExpression]]
  | .literal =>
    [[.phrase .number], [.token "STRING"], [.token "BOOL"], [.phrase .list],
      [.phrase .dictLiteral]]
  | .number => [[.token "NUMBER"], [.token "FLOAT"]]
  | .arrayAccess =>
    [[.phrase .primary, .token "LBRACKET", .phrase .expression, .token "RBRACKET"]]
  | .arithmetic =>
    [[.phrase .term], [.phrase .arithmetic, .token "PLUS", .phrase .term],
      [.phrase .arithmetic, .token "MINUS", .phrase .term]]
  | .comparison =>
    [[.phrase .arithmetic, .token "GREATER", .phrase .arithmetic],
      [.phrase .arithmetic, .token "LESS", .phrase .arithmetic],
      [.phrase .arithmetic, .token "EQUALS_EQUALS", .phrase .arithmetic],
      [.phrase .arithmetic, .token "GREATER_EQUALS", .phrase .arithmetic],
      [.phrase .arithmetic, .token "LESS_EQUALS", .phrase .arithmetic],
      [.phrase .arithmetic, .token "NOT_EQUALS", .phrase .arithmetic]]
  | .term =>
    [[.phrase .factor], [.phrase .term, .token "TIMES", .phrase .factor],
      [.phrase .term, .token "DIVIDE", .phrase .factor]]
  | .factor => [[.phrase .primary], [.token "MINUS", .phrase .factor]]
  | .numericLiteral =>
    [[.token "NUMBER"], [.token "FLOAT"], [.token "MINUS", .token "NUMBER"],
      [.token "MINUS", .token "FLOAT"]]
  | .dictLiteral =>
    [[.token "LBRACE", .phrase .dictEntries, .token "RBRACE"], [.token "LBRACE", .token "RBRACE"]]
  | .dictEntries =>
    [[.phrase .dictEntry], [.phrase .dictEntry, .token "COMMA", .phrase .dictEntries]]
  | .dictEntry => [[.phrase .expression, .token "COLON", .phrase .expression]]
  | .indexExpression =>
    [[.phrase .primary, .token "LBRACKET", .phrase .expression, .token "RBRACKET"],
      [.token "IDENTIFIER", .token "LBRACKET", .phrase .expression, .token "RBRACKET"]]
  | .list =>
    [[.token "LBRACKET", .phrase .listItems, .token "RBRACKET"],
      [.token "LBRACKET", .token "RBRACKET"]]
  | .listItems =>
    [[.phrase .expression], [.phrase .expression, .token "COMMA", .phrase .listItems]]
  | .functionCall =>
    [[.token "IDENTIFIER", .token "LPAREN", .phrase .argumentList, .token "RPAREN"],
      [.token "IDENTIFIER", .token "LPAREN", .token "RPAREN"]]
  | .argumentList =>
    [[.phrase .expression], [.phrase .expression, .token "COMMA", .phrase .argumentList]]
  | .runList => [[.phrase .runStatement], [.phrase .runStatement, .phrase .runList]]
  | .runStatement => [[.token "RUN", .token "STRING"]]

mutual

/-- A derivation of a symbol. -/
inductive Derivation : Symbol → Type where
  | token (token : Token) : Derivation (.token token.kindName)
  | phrase (rule : Rule) {symbols : List Symbol} (listed : symbols ∈ rule.alternatives)
      (parts : Derivations symbols) : Derivation (.phrase rule.subject)

/-- Derivations of several symbols, one after the other. -/
inductive Derivations : List Symbol → Type where
  | nil : Derivations []
  | cons {symbol : Symbol} {symbols : List Symbol} (first : Derivation symbol)
      (rest : Derivations symbols) : Derivations (symbol :: symbols)

end

mutual

/-- The tokens that a derivation spells. -/
def Derivation.tokens : {symbol : Symbol} → Derivation symbol → List Token
  | _, .token token => [token]
  | _, .phrase _ _ parts => parts.tokens

/-- The tokens that several derivations spell. -/
def Derivations.tokens : {symbols : List Symbol} → Derivations symbols → List Token
  | _, .nil => []
  | _, .cons first rest => first.tokens ++ rest.tokens

end

mutual

/-- The value of a derivation: what its rule builds of the values of its parts. -/
def Derivation.value : {symbol : Symbol} → Derivation symbol → Except Fault Value
  | _, .token token => .ok token.value
  | _, .phrase rule _ parts => do rule.build (← parts.values)

/-- The parts that several derivations make, each with its kind and its value. -/
def Derivations.values : {symbols : List Symbol} → Derivations symbols → Except Fault (List Part)
  | _, .nil => .ok []
  | symbol :: _, .cons first rest => do
    let value ← first.value
    return ⟨symbol.name, value⟩ :: (← rest.values)

end

/-! ## Kinds of tokens -/

theorem eq_mark_of_kindName {token : Token} {sign : Mark}
    (same : token.kindName = sign.kindName) : token = .mark sign := by
  cases token with
  | mark other => cases other <;> cases sign <;> first | rfl | exact absurd same (by decide)
  | keyword reserved => cases reserved <;> cases sign <;> exact absurd same (by decide)
  | _ => cases sign <;> simp [Token.kindName, Mark.kindName] at same

theorem eq_keyword_of_kindName {token : Token} {reserved : Keyword}
    (same : token.kindName = reserved.kindName) : token = .keyword reserved := by
  cases token with
  | mark sign => cases sign <;> cases reserved <;> exact absurd same (by decide)
  | keyword other =>
      cases other <;> cases reserved <;> first | rfl | exact absurd same (by decide)
  | _ => cases reserved <;> simp [Token.kindName, Keyword.kindName] at same

theorem exists_name_of_kindName {token : Token} (same : token.kindName = "IDENTIFIER") :
    ∃ word, token = .name word := by
  cases token with
  | name word => exact ⟨word, rfl⟩
  | mark sign => cases sign <;> exact absurd same (by decide)
  | keyword reserved => cases reserved <;> exact absurd same (by decide)
  | _ => simp [Token.kindName] at same

theorem exists_text_of_kindName {token : Token} (same : token.kindName = "STRING") :
    ∃ content, token = .text content := by
  cases token with
  | text content => exact ⟨content, rfl⟩
  | mark sign => cases sign <;> exact absurd same (by decide)
  | keyword reserved => cases reserved <;> exact absurd same (by decide)
  | _ => simp [Token.kindName] at same

/-! ## Tokens and values together -/

/-- A symbol has a derivation that spells the tokens and has the value. -/
def Derives (symbol : Symbol) (tokens : List Token) (value : Value) : Prop :=
  ∃ derivation : Derivation symbol, derivation.tokens = tokens ∧ derivation.value = .ok value

/-- Several symbols have derivations that spell the tokens and make the parts. -/
def DerivesAll (symbols : List Symbol) (tokens : List Token) (parts : List Part) : Prop :=
  ∃ derivations : Derivations symbols,
    derivations.tokens = tokens ∧ derivations.values = .ok parts

theorem DerivesAll.nil : DerivesAll [] [] [] :=
  ⟨.nil, rfl, rfl⟩

theorem DerivesAll.cons {symbol : Symbol} {symbols : List Symbol} {tokens tokens' : List Token}
    {value : Value} {parts : List Part} (first : Derives symbol tokens value)
    (rest : DerivesAll symbols tokens' parts) :
    DerivesAll (symbol :: symbols) (tokens ++ tokens') (⟨symbol.name, value⟩ :: parts) := by
  obtain ⟨derivation, spells, hasValue⟩ := first
  obtain ⟨derivations, spellRest, makeParts⟩ := rest
  refine ⟨.cons derivation derivations, ?_, ?_⟩
  · rw [Derivations.tokens, spells, spellRest]
  · rw [Derivations.values, hasValue, makeParts]
    rfl

theorem Derives.token (token : Token) : Derives (.token token.kindName) [token] token.value :=
  ⟨.token token, rfl, rfl⟩

/-- One more token in front. -/
theorem DerivesAll.token {symbols : List Symbol} {tokens : List Token} {parts : List Part}
    (token : Token) (rest : DerivesAll symbols tokens parts) :
    DerivesAll (.token token.kindName :: symbols) (token :: tokens)
      (⟨token.kindName, token.value⟩ :: parts) :=
  .cons (.token token) rest

theorem DerivesAll.name {symbols : List Symbol} {tokens : List Token} {parts : List Part}
    (word : String) (rest : DerivesAll symbols tokens parts) :
    DerivesAll (.token "IDENTIFIER" :: symbols) (.name word :: tokens)
      (⟨"IDENTIFIER", .str word⟩ :: parts) :=
  .token (.name word) rest

theorem DerivesAll.text {symbols : List Symbol} {tokens : List Token} {parts : List Part}
    (content : String) (rest : DerivesAll symbols tokens parts) :
    DerivesAll (.token "STRING" :: symbols) (.text content :: tokens)
      (⟨"STRING", .textLiteral (.str content)⟩ :: parts) :=
  .token (.text content) rest

theorem DerivesAll.single {symbol : Symbol} {tokens : List Token} {value : Value}
    (only : Derives symbol tokens value) :
    DerivesAll [symbol] tokens [⟨symbol.name, value⟩] := by
  have all := DerivesAll.cons only .nil
  rwa [List.append_nil] at all

/-- A rule builds a phrase of what one of its alternatives derives. -/
theorem Derives.rule (rule : Rule) {symbols : List Symbol} {tokens : List Token}
    {parts : List Part} {value : Value} (all : DerivesAll symbols tokens parts)
    (listed : symbols ∈ rule.alternatives) (built : rule.build parts = .ok value) :
    Derives (.phrase rule.subject) tokens value := by
  obtain ⟨derivations, spell, makeParts⟩ := all
  refine ⟨.phrase rule listed derivations, spell, ?_⟩
  rw [Derivation.value, makeParts]
  exact built

end Stepwise.Grammar
