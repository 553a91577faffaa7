import Stepwise.Proofs.Printing.Continuation

/-!
# Printed expressions are read back

At each level of expressions there is a parser that goes on with more operators of that level.  Behind
an expression that is printed at the level, it goes on as if it had just read the expression.

The parser of whole expressions treats a parenthesis at the start in a way of its own.  It makes no
difference in front of anything but an index, and a printed expression has an index behind a parenthesis
at its start only between parentheses of its own.
-/

namespace Stepwise

open Phrases (whole)

namespace Parse

/-! ## Levels -/

/-- A token that ends a factor. -/
def endsFactor (token : Token) : Bool :=
  token != .mark .openParen && token != .mark .openBracket

theorem endsFactor_of_isOperator {token : Token} (known : isOperator token = true) :
    endsFactor token = true := by
  have noParen : token ≠ .mark .openParen := ne_of_isOperator known rfl
  have noBracket : token ≠ .mark .openBracket := ne_of_isOperator known rfl
  simp [endsFactor, noParen, noBracket]

/-- A token that ends a term. -/
def endsTerm (token : Token) : Bool :=
  endsFactor token && (multiplyingOperator? token).isNone

theorem endsTerm_of_endsExpression {token : Token} (ends : endsExpression token = true) :
    endsTerm token = true := by
  simp_all [endsExpression, endsTerm, endsFactor, isOperator]

/-- The tokens are read as an expression of a level: the parser of this level goes on behind them as if
it had just read the expression. -/
def ReadsAt (tokens : List Token) (expr : Expr) : Level → Prop
  | .primary => GoesOn (factor whole) tokens (· ≠ .mark .openParen) (indices whole expr)
  | .factor => Yields (factor whole) tokens endsFactor expr
  | .term => GoesOn term tokens endsFactor (product whole expr)
  | .arithmetic => GoesOn arithmetic tokens endsTerm (sum whole expr)
  | .expression => Yields (factor whole >>= operation whole) tokens endsExpression expr

section

variable {tokens : List Token} {expr : Expr}

theorem ReadsAt.factor_of_primary (reads : ReadsAt tokens expr .primary) :
    ReadsAt tokens expr .factor := by
  apply reads.settle (fun token ends => by simp_all [endsFactor])
  intro rest ahead
  exact indices_left expr (ahead.mono fun token ends => by simp_all [endsFactor])

theorem ReadsAt.term_of_factor (reads : ReadsAt tokens expr .factor) :
    ReadsAt tokens expr .term :=
  Yields.bind reads (product whole)

theorem ReadsAt.arithmetic_of_term (reads : ReadsAt tokens expr .term) :
    ReadsAt tokens expr .arithmetic := by
  apply (GoesOn.bind reads (sum whole)).settle (fun token ends => by simp_all [endsTerm])
  intro rest ahead
  exact bind_of_ok (product_left expr (ahead.mono fun token ends => by simp_all [endsTerm])) _

theorem ReadsAt.expression_of_arithmetic (reads : ReadsAt tokens expr .arithmetic) :
    ReadsAt tokens expr .expression := by
  have goesOn := GoesOn.bind reads (comparison whole)
  rw [← operation_eq_arithmetic] at goesOn
  apply goesOn.settle fun token => endsTerm_of_endsExpression
  intro rest ahead
  rw [bind_of_ok (sum_left expr ahead.noOperator.noAdding),
    comparison_left expr ahead.noOperator.noComparing, pure_apply]

/-- What is read at a level is read at every position that admits it. -/
theorem ReadsAt.admitted {position level : Level} (reads : ReadsAt tokens expr level)
    (admits : position.admits level = true) : ReadsAt tokens expr position := by
  have upToArithmetic : ReadsAt tokens expr .arithmetic → position.admits .arithmetic = true →
      ReadsAt tokens expr position := by
    intro reads admits
    cases position with
    | arithmetic => exact reads
    | expression => exact reads.expression_of_arithmetic
    | _ => cases admits
  have upToTerm : ReadsAt tokens expr .term → position.admits .term = true →
      ReadsAt tokens expr position := by
    intro reads admits
    cases position with
    | term => exact reads
    | factor | primary => cases admits
    | _ => exact upToArithmetic reads.arithmetic_of_term rfl
  have upToFactor : ReadsAt tokens expr .factor → position.admits .factor = true →
      ReadsAt tokens expr position := by
    intro reads admits
    cases position with
    | factor => exact reads
    | primary => cases admits
    | _ => exact upToTerm reads.term_of_factor rfl
  cases level with
  | expression =>
      cases position with
      | expression => exact reads
      | _ => cases admits
  | arithmetic => exact upToArithmetic reads admits
  | term => exact upToTerm reads admits
  | factor => exact upToFactor reads admits
  | primary =>
      cases position with
      | primary => exact reads
      | _ => exact upToFactor reads.factor_of_primary rfl

end

/-! ## Operations -/

section

variable {left right tokens : List Token} {first second expr : Expr} {token : Token}
  {operator : Operator}

theorem readsAt_negate (reads : ReadsAt tokens expr .factor) :
    ReadsAt (.mark .minus :: tokens) (.negate expr) .factor :=
  GoesOn.cons factor_negated (Yields.map reads Expr.negate)

theorem readsAt_product (known : multiplyingOperator? token = some operator)
    (readsLeft : ReadsAt left first .term) (readsRight : ReadsAt right second .factor) :
    ReadsAt (left ++ token :: right) (.binary operator first second) .term := by
  have passes : endsFactor token = true := endsFactor_of_isOperator (by simp [isOperator, known])
  apply GoesOn.append readsLeft passes
  exact .cons (fun _ _ => product_taken known first)
    (Yields.bind readsRight fun factor => product whole (.binary operator first factor))

theorem readsAt_sum (known : addingOperator? token = some operator)
    (noProduct : multiplyingOperator? token = none)
    (readsLeft : ReadsAt left first .arithmetic) (readsRight : ReadsAt right second .term) :
    ReadsAt (left ++ token :: right) (.binary operator first second) .arithmetic := by
  have passes : endsTerm token = true := by
    rw [endsTerm, endsFactor_of_isOperator (by simp [isOperator, known]), noProduct]
    rfl
  have goesOn : GoesOn (do sum whole (.binary operator first (← term))) right endsTerm
      (sum whole (.binary operator first second)) := by
    apply (GoesOn.bind readsRight _).settle (fun token ends => by simp_all [endsTerm])
    intro rest ahead
    exact bind_of_ok (product_left second (ahead.mono fun token ends => by simp_all [endsTerm])) _
  apply GoesOn.append readsLeft passes
  apply GoesOn.cons _ goesOn
  intro position rest
  rw [sum_taken known, term, bind_assoc]

theorem readsAt_comparison (known : comparingOperator? token = some operator)
    (noProduct : multiplyingOperator? token = none) (noSum : addingOperator? token = none)
    (readsLeft : ReadsAt left first .arithmetic) (readsRight : ReadsAt right second .arithmetic) :
    ReadsAt (left ++ token :: right) (.binary operator first second) .expression := by
  have passes : endsTerm token = true := by
    rw [endsTerm, endsFactor_of_isOperator (by simp [isOperator, known]), noProduct]
    rfl
  have goesOn : Yields (do return Expr.binary operator first (← arithmetic)) right endsExpression
      (.binary operator first second) := by
    apply (GoesOn.bind readsRight _).settle fun token => endsTerm_of_endsExpression
    intro rest ahead
    rw [bind_of_ok (sum_left second ahead.noOperator.noAdding)]
  have goesOnLeft := GoesOn.bind readsLeft (comparison whole)
  rw [← operation_eq_arithmetic] at goesOnLeft
  apply goesOnLeft.append passes
  apply GoesOn.cons _ goesOn
  intro position rest
  have notAdded : Ahead (fun token => (addingOperator? token).isNone)
      (⟨token, position⟩ :: rest) := .cons (by rw [noSum]; rfl)
  rw [bind_of_ok (sum_left first notAdded), comparison_taken known, arithmetic, term]
  simp only [bind_assoc]

/-- An operation is read at its level, if its operands are read at theirs. -/
theorem readsAt_binary (operator : Operator) (readsLeft : ReadsAt left first operator.leftLevel)
    (readsRight : ReadsAt right second operator.rightLevel) :
    ReadsAt (left ++ .mark operator.mark :: right) (.binary operator first second)
      operator.level := by
  cases operator with
  | times | divide => exact readsAt_product rfl readsLeft readsRight
  | plus | minus => exact readsAt_sum rfl rfl readsLeft readsRight
  | _ => exact readsAt_comparison rfl rfl rfl readsLeft readsRight

end

/-! ## Parentheses at the start -/

/-- The parser of whole expressions reads the tokens as operands and operators, in front of anything
but an index. -/
def Straight (tokens : List Token) : Prop :=
  ∀ used rest, used.map Placed.token = tokens → Ahead (· ≠ .mark .openBracket) rest →
    expression whole (used ++ rest) = (factor whole >>= operation whole) (used ++ rest)

section

variable {tokens : List Token} {expr : Expr}

/-- A token that an operand starts with without a parenthesis around it. -/
def startsPlain (token : Token) : Bool :=
  startsOperand token && token != .mark .openParen

theorem expression_of_startsPlain (begins : Begins startsPlain tokens) {used : List Placed}
    (spelled : used.map Placed.token = tokens) (rest : List Placed) :
    expression whole (used ++ rest) = (factor whole >>= operation whole) (used ++ rest) := by
  apply expression_plain
  apply (begins.ahead spelled rest).mono
  intro token passes
  simp_all [startsPlain]

theorem straight_of_startsPlain (begins : Begins startsPlain tokens) : Straight tokens :=
  fun _ rest spelled _ => expression_of_startsPlain begins spelled rest

theorem Straight.append {token : Token} (straight : Straight tokens)
    (noBracket : token ≠ .mark .openBracket) (more : List Token) :
    Straight (tokens ++ token :: more) := by
  intro used rest spelled _
  obtain ⟨left, right, rfl, spelledLeft, spelledRight⟩ := List.map_eq_append_iff.mp spelled
  obtain ⟨placed, others, rfl, rfl, _⟩ := List.map_eq_cons_iff.mp spelledRight
  rw [List.append_assoc]
  exact straight left _ spelledLeft (.cons (by simpa using noBracket))

/-- What is read straight at the level of expressions is a whole expression. -/
theorem Straight.yields (straight : Straight tokens) (reads : ReadsAt tokens expr .expression) :
    Yields (expression whole) tokens endsExpression expr :=
  GoesOn.of_eq reads fun used rest spelled ahead => straight used rest spelled ahead.noBracket

theorem factor_parenthesized (yields : Yields (expression whole) tokens endsExpression expr) :
    GoesOn (factor whole) (Token.parenthesized tokens) anyToken (indices whole expr) := by
  have closed : GoesOn (mark .closeParen >>= fun _ => indices whole expr) [.mark .closeParen]
      anyToken (indices whole expr) := .cons (fun _ _ => mark_taken ..) (.nil _ _)
  exact .cons group_apply (yields.followed rfl closed)

theorem expression_parenthesized
    (yields : Yields (expression whole) tokens endsExpression expr) :
    GoesOn (expression whole) (Token.parenthesized tokens) anyToken (afterGroup whole expr) := by
  have closed : GoesOn (mark .closeParen >>= fun _ => afterGroup whole expr) [.mark .closeParen]
      anyToken (afterGroup whole expr) := .cons (fun _ _ => mark_taken ..) (.nil _ _)
  exact .cons expression_group (yields.followed rfl closed)

theorem readsAt_parenthesized (yields : Yields (expression whole) tokens endsExpression expr) :
    ReadsAt (Token.parenthesized tokens) expr .primary :=
  (factor_parenthesized yields).mono fun _ _ => rfl

theorem straight_parenthesized (yields : Yields (expression whole) tokens endsExpression expr) :
    Straight (Token.parenthesized tokens) := by
  intro used rest spelled noBracket
  have ahead := ahead_anyToken rest
  rw [expression_parenthesized yields used rest spelled ahead,
    bind_congr_apply (factor_parenthesized yields used rest spelled ahead),
    bind_of_ok (indices_left expr noBracket)]
  -- With an operator behind it the group is the first operand; otherwise it is all.
  by_cases ended : Ahead endsOperands rest
  · rw [afterGroup_indices expr ended, indices_left expr noBracket, operation_left expr ended]
  · obtain ⟨first, others, rfl, known⟩ := exists_of_not_ahead ended
    exact afterGroup_operator expr (by simpa [endsOperands] using known) others

end

end Parse

namespace Expr

theorem itemTokens_eq_map (items : List Expr) : itemTokens items = items.map tokens := by
  induction items with
  | nil => simp [itemTokens]
  | cons item rest ih => simp [itemTokens, ih, tokens, tokensAt]

/-- The tokens of an entry of a dictionary. -/
def entry (pair : Expr × Expr) : List Token :=
  pair.1.tokens ++ .mark .colon :: pair.2.tokens

theorem entryTokens_eq_map (entries : List (Expr × Expr)) :
    entryTokens entries = entries.map entry := by
  induction entries with
  | nil => simp [entryTokens]
  | cons pair rest ih => simp [entryTokens, ih, entry, tokens, tokensAt]

end Expr

namespace Parse

/-! ## Expressions -/

/-- What the parsers do with the tokens of an expression by itself.  A chain of indices behind an
operation is read as such only as a whole expression. -/
structure ReadBack (expr : Expr) : Prop where
  begins : Begins startsOperand expr.body
  level : expr.indexesOperation = false → ReadsAt expr.body expr expr.level
  straight : expr.indexesOperation = false → Straight expr.body
  plain : expr.indexesOperation = false → expr.level = .primary → Begins startsPlain expr.body
  chain : expr.indexesOperation = true →
    GoesOn (expression whole) expr.body anyToken (indices whole expr)

namespace ReadBack

variable {expr : Expr}

theorem of_plain (noChain : expr.indexesOperation = false) (isPrimary : expr.level = .primary)
    (begins : Begins startsPlain expr.body) (reads : ReadsAt expr.body expr .primary) :
    ReadBack expr where
  begins := begins.mono fun token passes => by simp_all [startsPlain]
  level _ := isPrimary ▸ reads
  straight _ := straight_of_startsPlain begins
  plain _ _ := begins
  chain isChain := by
    rw [noChain] at isChain
    cases isChain

theorem yields (back : ReadBack expr) :
    Yields (expression whole) expr.body endsExpression expr := by
  cases isChain : expr.indexesOperation with
  | false => exact (back.straight isChain).yields ((back.level isChain).admitted (by rfl))
  | true =>
      apply (back.chain isChain).settle fun _ _ => rfl
      intro rest ahead
      exact indices_left expr ahead.noBracket

theorem begins_tokensAt (back : ReadBack expr) (position : Level) :
    Begins startsOperand (expr.tokensAt position) := by
  rw [Expr.tokensAt, Expr.enclosedAt]
  split
  · exact back.begins
  · exact ⟨_, _, rfl, rfl⟩

theorem readsAt (back : ReadBack expr) (position : Level) :
    ReadsAt (expr.tokensAt position) expr position := by
  rw [Expr.tokensAt, Expr.enclosedAt]
  split
  case isTrue admitted =>
    obtain ⟨admits, noChain⟩ := Bool.and_eq_true_iff.mp admitted
    exact (back.level (by simpa using noChain)).admitted admits
  case isFalse => exact (readsAt_parenthesized back.yields).admitted (by cases position <;> rfl)

theorem straight_tokensAt (back : ReadBack expr) (position : Level) :
    Straight (expr.tokensAt position) := by
  rw [Expr.tokensAt, Expr.enclosedAt]
  split
  case isTrue admitted =>
    obtain ⟨_, noChain⟩ := Bool.and_eq_true_iff.mp admitted
    exact back.straight (by simpa using noChain)
  case isFalse => exact straight_parenthesized back.yields

theorem yields_tokens (back : ReadBack expr) :
    Yields (expression whole) expr.tokens endsExpression expr :=
  (back.straight_tokensAt .expression).yields (back.readsAt .expression)

end ReadBack

theorem readBack_name {word : String} (isVariable : IsVariable word) :
    ReadBack (.name word) := by
  have body : (Expr.name word).body = [Token.ofWord word] := by rw [Expr.body]
  have named : Token.ofWord word = .name word ∨
      ∃ holds, Token.ofWord word = .truth holds ∧ word = Token.truthWord holds := by
    by_cases isTrue : word = Token.truthWord true
    · exact .inr ⟨true, by rw [isTrue]; decide, isTrue⟩
    · by_cases isFalse : word = Token.truthWord false
      · exact .inr ⟨false, by rw [isFalse]; decide, isFalse⟩
      · exact .inl (by simp [Token.ofWord, isVariable.2, isTrue, isFalse])
  rcases named with same | ⟨holds, same, rfl⟩
  · apply ReadBack.of_plain rfl rfl <;> rw [body, same]
    · exact ⟨_, _, rfl, rfl⟩
    · intro used rest spelled ahead
      obtain ⟨placed, others, rfl, known, empty⟩ := List.map_eq_cons_iff.mp spelled
      obtain rfl := List.map_eq_nil_iff.mp empty
      obtain ⟨token, position⟩ := placed
      obtain rfl : token = .name word := known
      exact factor_name word position ahead
  · apply ReadBack.of_plain rfl rfl <;> rw [body, same]
    · exact ⟨_, _, rfl, rfl⟩
    · exact .cons (fun _ _ => factor_literal rfl _) (.nil _ _)

/-- An operand that is known by its first token, and what follows this token. -/
theorem readBack_primary {expr : Expr} {token : Token} {parse : Parse Expr} {inside : List Token}
    (body : expr.body = token :: inside) (noChain : expr.indexesOperation = false)
    (isPrimary : expr.level = .primary) (starts : startsPlain token = true)
    (known : primaryAfter whole token = some parse) (reads : Yields parse inside anyToken expr) :
    ReadBack expr := by
  apply ReadBack.of_plain noChain isPrimary <;> rw [body]
  · exact ⟨_, _, rfl, starts⟩
  · exact .cons (fun _ _ => factor_taken known _) ((reads.bind _).mono fun _ _ => rfl)

theorem yields_entry {pair : Expr × Expr} (key : ReadBack pair.1) (value : ReadBack pair.2) :
    Yields entry (Expr.entry pair) endsExpression pair := by
  have colon : Yields (do mark .colon; let value ← expression whole; return (pair.1, value))
      (.mark .colon :: pair.2.tokens) endsExpression pair :=
    .cons (fun _ _ => mark_taken ..) (value.yields_tokens.map _)
  exact key.yields_tokens.followed rfl colon

section

variable {items : List Expr} (back : ∀ item ∈ items, ReadBack item)

include back

theorem yields_items {γ : Type} {sign : Mark} {empty : γ} {build : List Expr → γ}
    (same : build [] = empty) (closes : endsItem (.mark sign) = true)
    (unlike : startsOperand (.mark sign) = false) :
    Yields (enclosed sign empty (expressions whole) build)
      (Token.commas (Expr.itemTokens items) ++ [.mark sign]) anyToken (build items) := by
  rw [Expr.itemTokens_eq_map]
  apply yields_enclosed expressions_whole same closes unlike
  · exact fun item member => (back item member).yields_tokens
  · exact fun item member => (back item member).begins_tokensAt .expression

theorem readBack_list : ReadBack (.list items) :=
  readBack_primary (by rw [Expr.body]) rfl rfl rfl list_known (yields_items back rfl rfl rfl)

theorem yields_arguments :
    Yields (arguments whole) (Token.commas (Expr.itemTokens items) ++ [.mark .closeParen]) anyToken
      items := by
  rw [arguments_whole]
  exact yields_items back rfl rfl rfl

theorem readBack_call (function : String) : ReadBack (.call function items) := by
  have called : Yields (ifNext (.mark .openParen) (do return Expr.call function (← arguments whole))
      (pure (.name function))) (.mark .openParen ::
        (Token.commas (Expr.itemTokens items) ++ [.mark .closeParen])) anyToken
      (.call function items) :=
    .cons (fun _ _ => ifNext_taken ..) ((yields_arguments back).map _)
  exact readBack_primary (by rw [Expr.body]) rfl rfl rfl rfl called

end

theorem readBack_dict {entries : List (Expr × Expr)}
    (back : ∀ pair ∈ entries, ReadBack pair.1 ∧ ReadBack pair.2) : ReadBack (.dict entries) := by
  have inside : Yields (enclosed .closeBrace (Expr.dict []) (Parse.entries whole) Expr.dict)
      (Token.commas (Expr.entryTokens entries) ++ [.mark .closeBrace]) anyToken
      (Expr.dict entries) := by
    rw [Expr.entryTokens_eq_map]
    apply yields_enclosed entries_whole rfl rfl rfl
    · exact fun pair member => yields_entry (back pair member).1 (back pair member).2
    · exact fun pair member => ((back pair member).1.begins_tokensAt .expression).append _
  exact readBack_primary (by rw [Expr.body]) rfl rfl rfl dict_known inside

theorem readBack_negate {operand : Expr} (back : ReadBack operand) :
    ReadBack (.negate operand) := by
  have body : (Expr.negate operand).body = .mark .minus :: operand.tokensAt .factor := by
    rw [Expr.body, Expr.tokensAt]
  have begins : Begins startsPlain (.mark .minus :: operand.tokensAt .factor) := ⟨_, _, rfl, rfl⟩
  constructor <;> rw [body]
  · exact begins.mono fun token passes => by simp_all [startsPlain]
  · exact fun _ => readsAt_negate (back.readsAt .factor)
  · exact fun _ => straight_of_startsPlain begins
  · exact fun _ _ => begins
  · exact nofun

theorem readBack_binary (operator : Operator) {left right : Expr} (backLeft : ReadBack left)
    (backRight : ReadBack right) : ReadBack (.binary operator left right) := by
  have body : (Expr.binary operator left right).body =
      left.tokensAt operator.leftLevel ++ .mark operator.mark ::
        right.tokensAt operator.rightLevel := by
    rw [Expr.body, Expr.tokensAt, Expr.tokensAt]
  constructor <;> rw [body]
  · exact (backLeft.begins_tokensAt _).append _
  · exact fun _ => readsAt_binary operator (backLeft.readsAt _) (backRight.readsAt _)
  · exact fun _ => (backLeft.straight_tokensAt _).append (by cases operator <;> nofun) _
  · intro _ isPrimary
    cases operator <;> cases isPrimary
  · exact nofun

theorem goesOn_index {key : Expr} (back : ReadBack key) (container : Expr) :
    GoesOn (indices whole container) (.mark .openBracket :: (key.tokens ++ [.mark .closeBracket]))
      anyToken (indices whole (.index container key)) := by
  have closed : GoesOn (do mark .closeBracket; indices whole (.index container key))
      [.mark .closeBracket] anyToken (indices whole (.index container key)) :=
    .cons (fun _ _ => mark_taken ..) (.nil _ _)
  have opened : GoesOn (do
        let key ← expression whole
        mark .closeBracket
        indices whole (.index container key)) (key.tokens ++ [.mark .closeBracket]) anyToken
      (indices whole (.index container key)) := back.yields_tokens.followed rfl closed
  exact .cons (indices_taken container) opened

theorem readBack_index {container key : Expr} (back : ReadBack container)
    (backKey : ReadBack key) : ReadBack (.index container key) := by
  have body : (Expr.index container key).body = container.enclosedContainer container.body ++
      .mark .openBracket :: (key.tokens ++ [.mark .closeBracket]) := by
    rw [Expr.body, Expr.tokens, Expr.tokensAt]
  have indexed := goesOn_index backKey container
  by_cases isPrimary : container.level = .primary
  · have bare : container.enclosedContainer container.body = container.body := if_pos isPrimary
    have same : (Expr.index container key).indexesOperation = container.indexesOperation := by
      simp [Expr.indexesOperation, isPrimary]
    constructor <;> rw [body, bare]
    · exact back.begins.append _
    · intro noChain
      have reads := back.level (same ▸ noChain)
      rw [isPrimary] at reads
      exact (reads.append rfl indexed).mono fun _ _ => rfl
    · exact fun noChain => straight_of_startsPlain ((back.plain (same ▸ noChain) isPrimary).append _)
    · exact fun noChain _ => (back.plain (same ▸ noChain) isPrimary).append _
    · exact fun isChain => (back.chain (same ▸ isChain)).append rfl indexed
  · have grouped : container.enclosedContainer container.body =
        Token.parenthesized container.body := if_neg isPrimary
    have isChain : (Expr.index container key).indexesOperation = true := by
      simp [Expr.indexesOperation, isPrimary]
    constructor <;> rw [body, grouped]
    · exact ⟨_, _, rfl, rfl⟩
    · rw [isChain]
      exact nofun
    · rw [isChain]
      exact nofun
    · rw [isChain]
      exact nofun
    · intro _
      apply (expression_parenthesized back.yields).append rfl
      apply indexed.of_eq
      intro used rest spelled _
      obtain ⟨placed, others, rfl, known, _⟩ := List.map_eq_cons_iff.mp spelled
      exact afterGroup_indices container (.cons (by rw [known]; rfl))

end Parse

namespace Expr

open Parse

mutual

/-- Every expression that can be printed is read back. -/
theorem readBack : (expr : Expr) → expr.Printable → ReadBack expr
  | .name _, printable => readBack_name (by simpa [Printable] using printable)
  | .int _, _ => readBack_primary (by rw [body]) rfl rfl rfl rfl (.nil _ _)
  | .float _, _ => readBack_primary (by rw [body]) rfl rfl rfl rfl (.nil _ _)
  | .text _, _ => readBack_primary (by rw [body]) rfl rfl rfl rfl (.nil _ _)
  | .list items, printable => readBack_list (readBackItems items (by simpa [Printable] using printable))
  | .dict entries, printable =>
    readBack_dict (readBackEntries entries (by simpa [Printable] using printable))
  | .call function arguments, printable => by
    rw [Printable] at printable
    exact readBack_call (readBackItems arguments printable.2) function
  | .index container key, printable => by
    rw [Printable] at printable
    exact readBack_index (readBack container printable.1) (readBack key printable.2)
  | .negate operand, printable => by
    rw [Printable] at printable
    exact readBack_negate (readBack operand printable)
  | .binary operator left right, printable => by
    rw [Printable] at printable
    exact readBack_binary operator (readBack left printable.1) (readBack right printable.2)

theorem readBackItems : (items : List Expr) → AllPrintable items → ∀ item ∈ items, ReadBack item
  | [], _ => nofun
  | first :: rest, printable => by
    rw [AllPrintable] at printable
    intro item member
    rcases List.mem_cons.mp member with same | member
    · rw [same]
      exact readBack first printable.1
    · exact readBackItems rest printable.2 item member

theorem readBackEntries : (entries : List (Expr × Expr)) → EntriesPrintable entries →
    ∀ pair ∈ entries, ReadBack pair.1 ∧ ReadBack pair.2
  | [], _ => nofun
  | (key, value) :: rest, printable => by
    rw [EntriesPrintable] at printable
    intro pair member
    rcases List.mem_cons.mp member with same | member
    · rw [same]
      exact ⟨readBack key printable.1.1, readBack value printable.1.2⟩
    · exact readBackEntries rest printable.2 pair member

end

end Expr

end Stepwise
