import Stepwise.Proofs.Acceptance.Operand

/-!
# Which expressions are accepted

One lemma for each rule of the grammar for expressions: what is known of the parts of a phrase gives
what the parser does with the phrase.
-/

namespace Stepwise

open Grammar
open Phrases (whole)

namespace Parse

/-- The piece of a single token. -/
def leaf (placed : Placed) : Piece :=
  ⟨[placed], .plain, false⟩

theorem join_only {rule : Rule} (listed : rule ∈ [Rule.primary, .factor, .term, .arithmetic])
    (part : Piece) : Piece.join rule [part] = part := by
  simp only [List.mem_cons, List.not_mem_nil, or_false] at listed
  rcases listed with rfl | rfl | rfl | rfl <;> simp [Piece.join, Rule.opening]

theorem join_operator {rule : Rule} (listed : rule ∈ [Rule.term, .arithmetic, .comparison])
    (left right : Piece) (first : Placed) :
    Piece.join rule [left, leaf first, right] =
      ⟨left.placed ++ first :: right.placed, left.opening.withOperator,
        left.strands || right.strands⟩ := by
  simp only [List.mem_cons, List.not_mem_nil, or_false] at listed
  rcases listed with rfl | rfl | rfl <;> simp [Piece.join, Rule.opening, leaf]

section

variable {piece : Piece}

theorem Takes.factor (takes : Takes (factor whole) IsPrimary piece) :
    Takes (Parse.factor whole) IsFactor piece :=
  { takes with form := fun free => (takes.form free).isFactor }

theorem Takes.term (takes : Takes (Parse.factor whole) IsFactor piece) :
    Takes Parse.term IsTerm piece :=
  { takes with
    form := fun free => (takes.form free).isTerm
    fails := fun strands rest => (takes.fails strands rest).bind _ }

theorem Takes.arithmetic (takes : Takes Parse.term IsTerm piece) :
    Takes Parse.arithmetic IsArithmetic piece :=
  { takes with
    form := fun free => (takes.form free).isArithmetic
    fails := fun strands rest => (takes.fails strands rest).bind _ }

theorem Takes.operation (takes : Takes Parse.arithmetic IsArithmetic piece) :
    Takes (Parse.factor whole >>= Parse.operation whole) IsOperation piece :=
  { takes with
    form := fun free => (takes.form free).isOperation
    fails := fun strands rest => by
      rw [operation_eq_arithmetic]
      exact (takes.fails strands rest).bind _ }

/-- An operator between two operands. The parser of the whole fails where that of the left operand
does, and goes on behind the operator with that of the right operand. -/
theorem Takes.binary {run runRight result : Parse Expr}
    {form formRight formResult : List Placed → Prop} {left right : Piece} {first : Placed}
    (takesLeft : Takes run form left) (takesRight : Takes runRight formRight right)
    (known : isOperator first.token = true)
    (failsLeft : ∀ tokens, Fails run tokens → Fails result tokens)
    (goesOn : form left.placed → ∃ next : Expr → Parse Expr, ∀ rest,
      result (left.placed ++ first :: rest) = (runRight >>= next) rest)
    (combine : form left.placed → formRight right.placed →
      formResult (left.placed ++ first :: right.placed)) :
    Takes result formResult ⟨left.placed ++ first :: right.placed, left.opening.withOperator,
      left.strands || right.strands⟩ where
  starts := takesLeft.starts.append _
  form free := by
    obtain ⟨freeLeft, freeRight⟩ := Bool.or_eq_false_iff.mp free
    exact combine (takesLeft.form freeLeft) (takesRight.form freeRight)
  opens free := by
    obtain ⟨freeLeft, -⟩ := Bool.or_eq_false_iff.mp free
    exact (takesLeft.opens freeLeft).operator known right.placed
  fails strands rest := by
    rw [List.append_assoc, List.cons_append]
    cases strandsLeft : left.strands with
    | true => exact failsLeft _ (takesLeft.fails strandsLeft _)
    | false =>
        have strandsRight : right.strands = true := by simpa [strandsLeft] using strands
        obtain ⟨next, same⟩ := goesOn (takesLeft.form strandsLeft)
        exact ((takesRight.fails strandsRight rest).bind next).of_eq (same _)

theorem Takes.product {left right : Piece} {first : Placed} {operator : Operator}
    (takesLeft : Takes Parse.term IsTerm left)
    (known : multiplyingOperator? first.token = some operator)
    (takesRight : Takes (Parse.factor whole) IsFactor right) :
    Takes Parse.term IsTerm (Piece.join .term [left, leaf first, right]) := by
  rw [join_operator (by decide)]
  apply takesLeft.binary takesRight (isOperator_of_multiplying known) (fun _ fails => fails)
  · intro form
    obtain ⟨operand, goesOn⟩ := form.before_operator known
    exact ⟨_, goesOn⟩
  · exact fun form formRight => form.multiply known formRight

theorem Takes.sum {left right : Piece} {first : Placed} {operator : Operator}
    (takesLeft : Takes Parse.arithmetic IsArithmetic left)
    (known : addingOperator? first.token = some operator)
    (takesRight : Takes Parse.term IsTerm right) :
    Takes Parse.arithmetic IsArithmetic (Piece.join .arithmetic [left, leaf first, right]) := by
  rw [join_operator (by decide)]
  apply takesLeft.binary takesRight (isOperator_of_adding known) (fun _ fails => fails)
  · intro form
    obtain ⟨operand, goesOn⟩ := form.before_operator known
    exact ⟨_, goesOn⟩
  · exact fun form formRight => form.add known formRight

theorem Takes.comparison {left right : Piece} {first : Placed} {operator : Operator}
    (takesLeft : Takes Parse.arithmetic IsArithmetic left)
    (known : comparingOperator? first.token = some operator)
    (takesRight : Takes Parse.arithmetic IsArithmetic right) :
    Takes (Parse.factor whole >>= Parse.operation whole) IsOperation
      (Piece.join .comparison [left, leaf first, right]) := by
  rw [join_operator (by decide)]
  apply takesLeft.binary takesRight (isOperator_of_comparing known)
  · intro tokens fails
    rw [operation_eq_arithmetic]
    exact fails.bind _
  · intro form
    obtain ⟨operand, goesOn⟩ := form.before_comparison known
    exact ⟨_, goesOn⟩
  · exact fun form formRight => form.compare known formRight

theorem Takes.negate {sign : Placed} (minus : sign.token = .mark .minus)
    (takes : Takes (Parse.factor whole) IsFactor piece) :
    Takes (Parse.factor whole) IsFactor (Piece.join .factor [leaf sign, piece]) := by
  obtain ⟨token, position⟩ := sign
  obtain rfl : token = .mark .minus := minus
  have joined : Piece.join .factor [leaf ⟨.mark .minus, position⟩, piece] =
      ⟨⟨.mark .minus, position⟩ :: piece.placed, .plain, piece.strands⟩ := by
    simp [Piece.join, Rule.opening, leaf]
  rw [joined]
  refine ⟨⟨_, _, rfl, rfl⟩, ?_, fun _ => opens_plain _ nofun, ?_⟩
  · intro free
    obtain ⟨last, wrap, runs⟩ := takes.form free
    refine ⟨last, fun operand => .negate (wrap operand), ?_⟩
    intro rest ahead
    rw [List.cons_append, factor_negated, bind_congr_apply (runs rest ahead), bind_assoc]
    simp only [pure_bind]
  · intro strands rest
    exact ((takes.fails strands rest).bind _).of_eq (factor_negated ..)

/-! ## Whole expressions -/

/-- A stretch that is read as an expression, to which indices may be added. -/
def IsExpression (used : List Placed) : Prop :=
  ∃ last next, Settles next ∧ ∀ rest, Ahead endsOperands rest →
    Ahead (· ≠ .mark .openParen) rest →
      expression whole (used ++ rest) = (indices whole last >>= next) rest

/-- What the parser of expressions does with a phrase. -/
structure TakesExpression (piece : Piece) : Prop where
  starts : Starts startsOperand piece.placed
  form : piece.strands = false → IsExpression piece.placed
  jams : piece.strands = true → ∀ rest, Jams (expression whole) (piece.placed ++ rest)

theorem IsExpression.consumes {used : List Placed} (read : IsExpression used) :
    Consumes (expression whole) endsExpression used := by
  obtain ⟨last, next, ⟨wrap, settles⟩, runs⟩ := read
  refine ⟨wrap last, ?_⟩
  intro rest ahead
  rw [runs rest ahead.noOperator ahead.noParen, bind_of_ok (indices_left last ahead.noBracket),
    settles last rest ahead.noOperator]

theorem TakesExpression.upTo (takes : TakesExpression piece) :
    TakesUpTo (expression whole) startsOperand endsExpression piece :=
  ⟨takes.starts, fun free => (takes.form free).consumes, takes.jams⟩

/-- Where the operands and operators of an expression cannot be read, the parser of expressions
jams. -/
theorem expression_jams {tokens : List Placed}
    (fails : Fails (factor whole >>= operation whole) tokens) :
    Jams (expression whole) tokens := by
  -- Only a parenthesis at the start makes a difference between the two parsers.
  by_cases other : Ahead (· ≠ .mark .openParen) tokens
  · exact (fails.of_eq (expression_plain other)).jams
  · obtain ⟨⟨token, position⟩, rest, rfl, same⟩ := exists_of_not_ahead other
    obtain rfl : token = .mark .openParen := by simpa using same
    intro value left read
    rw [expression_group] at read
    obtain ⟨group, closing, readGroup, read⟩ := bind_eq_ok.mp read
    obtain ⟨_, after, readClose, read⟩ := bind_eq_ok.mp read
    have operand : (factor whole >>= operation whole) (⟨.mark .openParen, position⟩ :: rest) =
        (indices whole group >>= operation whole) after := by
      apply bind_congr_apply
      rw [group_apply, bind_of_ok readGroup, bind_of_ok readClose]
    obtain ⟨stop, failed⟩ := fails.of_eq operand.symm
    by_cases free : Ahead endsOperands after
    · rw [afterGroup_indices group free] at read
      rw [bind_of_ok read] at failed
      by_cases ahead : Ahead endsOperands left
      · rw [operation_left value ahead] at failed
        cases failed
      · obtain ⟨first, others, rfl, known⟩ := exists_of_not_ahead ahead
        exact ⟨first, others, rfl, by simpa [endsOperands] using known⟩
    · obtain ⟨first, others, rfl, known⟩ := exists_of_not_ahead free
      have isOperator : isOperator first.token = true := by simpa [endsOperands] using known
      rw [afterGroup_operator group isOperator] at read
      rw [bind_of_ok (indices_before_operator isOperator group others), read] at failed
      cases failed

/-- An expression of operands and operators. It is read unless it opens with an indexed group that an
operator follows. -/
theorem Takes.expression
    (takes : Takes (Parse.factor whole >>= Parse.operation whole) IsOperation piece) :
    TakesExpression (Piece.join .expression [piece]) := by
  have joined : Piece.join .expression [piece] =
      ⟨piece.placed, .plain, piece.strands || piece.opening = .stranded⟩ := by
    simp [Piece.join, Rule.opening]
  rw [joined]
  refine ⟨takes.starts, ?_, ?_⟩
  · intro free
    simp only [Bool.or_eq_false_iff, decide_eq_false_iff_not] at free
    obtain ⟨freeParts, notStranded⟩ := free
    obtain ⟨last, next, settles, runs⟩ := takes.form freeParts
    have opens := takes.opens freeParts
    cases opening : piece.opening with
    | plain =>
        rw [opening] at opens
        exact ⟨last, next, settles, fun rest _ noParen => (opens rest).trans (runs rest noParen)⟩
    | group =>
        rw [opening] at opens
        obtain ⟨group, both⟩ := opens
        refine ⟨group, _, settles_pure id, ?_⟩
        intro rest ahead _
        rw [(both rest).1, afterGroup_indices group ahead]
        exact (congrFun (bind_pure _) rest).symm
    | indexed =>
        rw [opening] at opens
        obtain ⟨container, indexed⟩ := opens
        refine ⟨container, _, settles_pure id, ?_⟩
        intro rest _ _
        rw [indexed rest]
        exact (congrFun (bind_pure _) rest).symm
    | stranded => exact absurd opening notStranded
  · intro strands rest
    cases strandsParts : piece.strands with
    | true => exact expression_jams (takes.fails strandsParts rest)
    | false =>
        have stranded : piece.opening = .stranded := by simpa [strandsParts] using strands
        have opens := takes.opens strandsParts
        rw [stranded] at opens
        exact opens rest

end

/-! ## Phrases in brackets -/

section

variable {α β γ : Type} {parse : Parse α} {stops : Token → Bool} {within : List Placed} {sign : Mark}

theorem bracket_taken (consumes : Consumes parse stops within)
    (closes : stops (.mark sign) = true) :
    ∃ value, ∀ (β : Type) (next : α → Parse β) position rest,
      (do
        let found ← parse
        mark sign
        next found) (within ++ (⟨.mark sign, position⟩ : Placed) :: rest) = next value rest := by
  obtain ⟨value, read⟩ := consumes
  refine ⟨value, ?_⟩
  intro β next position rest
  rw [bind_of_ok (read _ (.cons closes)), mark_taken]

theorem bracket_fails (jams : ∀ rest, Jams parse (within ++ rest))
    (unlike : isOperator (.mark sign) = false) (next : α → Parse β) (rest : List Placed) :
    Fails (do
      let found ← parse
      mark sign
      next found) (within ++ rest) :=
  (jams rest).bind_fails fun _ _ _ known => mark_fails known unlike _ _

theorem enclosed_taken (empty : γ) (build : α → γ) (consumes : Consumes parse stops within)
    (closes : stops (.mark sign) = true) (starts : Starts startsOperand within)
    (unlike : startsOperand (.mark sign) = false) :
    ∃ value, ∀ position rest,
      enclosed sign empty parse build (within ++ ⟨.mark sign, position⟩ :: rest) =
        .ok (value, rest) := by
  obtain ⟨value, read⟩ := bracket_taken consumes closes
  refine ⟨build value, ?_⟩
  intro position rest
  rw [enclosed, ifNext_left (starts.ahead_ne unlike _), read]
  rfl

theorem enclosed_fails (empty : γ) (build : α → γ) (jams : ∀ rest, Jams parse (within ++ rest))
    (notOperator : isOperator (.mark sign) = false) (starts : Starts startsOperand within)
    (unlike : startsOperand (.mark sign) = false) (rest : List Placed) :
    Fails (enclosed sign empty parse build) (within ++ rest) :=
  (bracket_fails jams notOperator _ rest).of_eq (ifNext_left (starts.ahead_ne unlike rest))

/-- A bracket that opens an operand, and what stands in it. -/
theorem Takes.enclosed {opened closed : Placed} {piece : Piece} {empty : Expr} {build : α → Expr}
    (known : primaryAfter whole opened.token = some (Parse.enclosed sign empty parse build))
    (ends : closed.token = .mark sign) (opens : opened.token ≠ .mark .openParen)
    (begins : startsOperand opened.token = true)
    (takes : TakesUpTo parse startsOperand stops piece) (closes : stops (.mark sign) = true)
    (notOperator : isOperator (.mark sign) = false)
    (unlike : startsOperand (.mark sign) = false) :
    Takes (Parse.factor whole) IsPrimary
      ⟨opened :: (piece.placed ++ [closed]), .plain, piece.strands⟩ := by
  obtain ⟨token, position⟩ := closed
  obtain rfl : token = .mark sign := ends
  refine ⟨⟨_, _, rfl, begins⟩, ?_, fun _ => opens_plain _ opens, ?_⟩
  · intro free
    obtain ⟨value, read⟩ := enclosed_taken empty build (takes.consumes free) closes takes.starts unlike
    refine ⟨value, ?_⟩
    intro rest _
    simp only [List.cons_append, List.append_assoc, List.nil_append]
    rw [factor_taken known, bind_of_ok (read position rest)]
    exact (congrFun (bind_pure _) rest).symm
  · intro strands rest
    rw [List.cons_append, List.append_assoc]
    apply Fails.of_eq _ (factor_taken known _)
    exact (enclosed_fails empty build (takes.jams strands) notOperator takes.starts unlike _).bind _

end

section

variable {piece key : Piece} {opened closed : Nat}

/-- A group in parentheses as an operand. -/
theorem TakesExpression.group (takes : TakesExpression piece) :
    Takes (factor whole) IsPrimary
      (Piece.join .primary [leaf ⟨.mark .openParen, opened⟩, piece,
        leaf ⟨.mark .closeParen, closed⟩]) := by
  have joined : Piece.join .primary [leaf ⟨.mark .openParen, opened⟩, piece,
      leaf ⟨.mark .closeParen, closed⟩] =
      ⟨⟨.mark .openParen, opened⟩ :: (piece.placed ++ [⟨.mark .closeParen, closed⟩]), .group,
        piece.strands⟩ := by
    simp [Piece.join, Rule.opening, leaf]
  rw [joined]
  refine ⟨⟨_, _, rfl, rfl⟩, ?_, ?_, ?_⟩
  · intro free
    obtain ⟨value, read⟩ := bracket_taken (takes.form free).consumes
      (show endsExpression (.mark .closeParen) = true from rfl)
    refine ⟨value, ?_⟩
    intro rest _
    simp only [List.cons_append, List.append_assoc, List.nil_append]
    rw [group_apply, read]
    exact (congrFun (bind_pure _) rest).symm
  · intro free
    obtain ⟨value, read⟩ := bracket_taken (takes.form free).consumes
      (show endsExpression (.mark .closeParen) = true from rfl)
    refine ⟨value, ?_⟩
    intro rest
    simp only [List.cons_append, List.append_assoc, List.nil_append]
    rw [expression_group, group_apply, read, read]
    exact ⟨rfl, rfl⟩
  · intro strands rest
    rw [List.cons_append, List.append_assoc]
    exact (bracket_fails (takes.jams strands) rfl _ _).of_eq (group_apply ..)

/-- A group in parentheses as an expression. -/
theorem TakesExpression.parenthesized (takes : TakesExpression piece) :
    TakesExpression
      (Piece.join .expression [leaf ⟨.mark .openParen, opened⟩, piece,
        leaf ⟨.mark .closeParen, closed⟩]) := by
  have joined : Piece.join .expression [leaf ⟨.mark .openParen, opened⟩, piece,
      leaf ⟨.mark .closeParen, closed⟩] =
      ⟨⟨.mark .openParen, opened⟩ :: (piece.placed ++ [⟨.mark .closeParen, closed⟩]), .plain,
        piece.strands⟩ := by
    simp [Piece.join, Rule.opening, leaf]
  rw [joined]
  refine ⟨⟨_, _, rfl, rfl⟩, ?_, ?_⟩
  · intro free
    obtain ⟨value, read⟩ := bracket_taken (takes.form free).consumes
      (show endsExpression (.mark .closeParen) = true from rfl)
    refine ⟨value, _, settles_pure id, ?_⟩
    intro rest ahead _
    simp only [List.cons_append, List.append_assoc, List.nil_append]
    rw [expression_group, read, afterGroup_indices value ahead]
    exact (congrFun (bind_pure _) rest).symm
  · intro strands rest
    rw [List.cons_append, List.append_assoc]
    exact ((bracket_fails (takes.jams strands) rfl _ _).of_eq (expression_group ..)).jams

/-- The key is in the way of nothing, unless it strands an operator. -/
theorem index_fails (takesKey : TakesExpression key) (strands : key.strands = true)
    (container : Expr) (rest : List Placed) :
    Fails (indices whole container) (⟨.mark .openBracket, opened⟩ :: (key.placed ++ rest)) :=
  (bracket_fails (takesKey.jams strands) rfl _ _).of_eq (indices_taken ..)

theorem TakesExpression.indexed (takes : TakesExpression piece) (takesKey : TakesExpression key) :
    TakesExpression
      (Piece.join .indexing [piece, leaf ⟨.mark .openBracket, opened⟩, key,
        leaf ⟨.mark .closeBracket, closed⟩]) := by
  have joined : Piece.join .indexing [piece, leaf ⟨.mark .openBracket, opened⟩, key,
      leaf ⟨.mark .closeBracket, closed⟩] =
      ⟨piece.placed ++ ⟨.mark .openBracket, opened⟩ ::
        (key.placed ++ [⟨.mark .closeBracket, closed⟩]), .plain,
        piece.strands || key.strands⟩ := by
    simp [Piece.join, Rule.opening, leaf]
  rw [joined]
  refine ⟨takes.starts.append _, ?_, ?_⟩
  · intro free
    obtain ⟨freeContainer, freeKey⟩ := Bool.or_eq_false_iff.mp free
    obtain ⟨last, next, settles, runs⟩ := takes.form freeContainer
    obtain ⟨found, indexed⟩ := indices_closed (takesKey.form freeKey).consumes
    refine ⟨.index last found, next, settles, ?_⟩
    intro rest _ _
    simp only [List.append_assoc, List.cons_append, List.nil_append]
    rw [runs _ (.cons rfl) (.cons rfl), bind_congr_apply (indexed last opened closed rest)]
  · intro strands rest
    simp only [List.append_assoc, List.cons_append, List.nil_append]
    cases strandsContainer : piece.strands with
    | true => exact takes.jams strandsContainer _
    | false =>
        have strandsKey : key.strands = true := by simpa [strandsContainer] using strands
        obtain ⟨last, next, settles, runs⟩ := takes.form strandsContainer
        exact (((index_fails takesKey strandsKey last _).bind next).of_eq
          (runs _ (.cons rfl) (.cons rfl))).jams

theorem Takes.indexed (takes : Takes (Parse.factor whole) IsPrimary piece)
    (takesKey : TakesExpression key) :
    Takes (Parse.factor whole) IsPrimary
      (Piece.join .indexExpression [piece, leaf ⟨.mark .openBracket, opened⟩, key,
        leaf ⟨.mark .closeBracket, closed⟩]) := by
  have joined : Piece.join .indexExpression [piece, leaf ⟨.mark .openBracket, opened⟩, key,
      leaf ⟨.mark .closeBracket, closed⟩] =
      ⟨piece.placed ++ ⟨.mark .openBracket, opened⟩ ::
        (key.placed ++ [⟨.mark .closeBracket, closed⟩]), piece.opening.withIndex,
        piece.strands || key.strands⟩ := by
    simp [Piece.join, Rule.opening, leaf]
  rw [joined]
  refine ⟨takes.starts.append _, ?_, ?_, ?_⟩
  · intro free
    obtain ⟨freeContainer, freeKey⟩ := Bool.or_eq_false_iff.mp free
    exact (takes.form freeContainer).index (takesKey.form freeKey).consumes _ _
  · intro free
    obtain ⟨freeContainer, freeKey⟩ := Bool.or_eq_false_iff.mp free
    exact (takes.opens freeContainer).index (takesKey.form freeKey).consumes _ _
  · intro strands rest
    simp only [List.append_assoc, List.cons_append, List.nil_append]
    cases strandsContainer : piece.strands with
    | true => exact takes.fails strandsContainer _
    | false =>
        have strandsKey : key.strands = true := by simpa [strandsContainer] using strands
        obtain ⟨last, runs⟩ := takes.form strandsContainer
        exact ((index_fails takesKey strandsKey last _).bind pure).of_eq (runs _ (.cons rfl))

end

/-! ## Literals and calls -/

/-- A name, or a literal of one token. -/
theorem takes_leaf {placed : Placed}
    (kind : placed.token.kindName ∈ ["IDENTIFIER", "NUMBER", "STRING", "BOOL", "FLOAT"]) :
    Takes (factor whole) IsPrimary (leaf placed) := by
  obtain ⟨token, position⟩ := placed
  have alone : ∀ value, (∀ rest, Ahead (· ≠ .mark .openParen) rest →
      factor whole (⟨token, position⟩ :: rest) = indices whole value rest) →
      startsOperand token = true → token ≠ .mark .openParen →
        Takes (factor whole) IsPrimary (leaf ⟨token, position⟩) := by
    intro value read starts other
    refine ⟨⟨_, [], rfl, starts⟩, fun _ => ⟨value, ?_⟩, fun _ => opens_plain [] other, by simp [leaf]⟩
    intro rest ahead
    rw [bind_pure]
    exact read rest ahead
  cases token with
  | mark sign => cases sign <;> simp [Token.kindName, Mark.kindName] at kind
  | keyword reserved => cases reserved <;> simp [Token.kindName, Keyword.kindName] at kind
  | name word => exact alone _ (fun _ ahead => factor_name word position ahead) rfl (by simp)
  | truth holds => exact alone _ (fun rest _ => factor_literal rfl rest) rfl (by simp)
  | int n => exact alone _ (fun rest _ => factor_literal rfl rest) rfl (by simp)
  | float x => exact alone _ (fun rest _ => factor_literal rfl rest) rfl (by simp)
  | text content => exact alone _ (fun rest _ => factor_literal rfl rest) rfl (by simp)

/-- A pair of brackets with nothing in it. -/
theorem takes_empty {opened closed : Placed} {sign : Mark} {α : Type} {parse : Parse α}
    {empty : Expr} {build : α → Expr}
    (known : primaryAfter whole opened.token = some (enclosed sign empty parse build))
    (ends : closed.token = .mark sign) (opens : opened.token ≠ .mark .openParen)
    (begins : startsOperand opened.token = true) :
    Takes (factor whole) IsPrimary ⟨[opened, closed], .plain, false⟩ := by
  obtain ⟨token, position⟩ := closed
  obtain rfl : token = .mark sign := ends
  refine ⟨⟨_, _, rfl, begins⟩, fun _ => ⟨empty, ?_⟩, fun _ => opens_plain _ opens, nofun⟩
  intro rest _
  rw [bind_pure, List.cons_append, List.cons_append, List.nil_append, factor_taken known,
    bind_apply, enclosed, ifNext_taken, pure_apply]

section

variable {piece others : Piece} {opened closed : Placed}

theorem takes_list (takes : TakesUpTo (expressions whole) startsOperand endsItem piece)
    (opens : opened.token = .mark .openBracket) (closes : closed.token = .mark .closeBracket) :
    Takes (factor whole) IsPrimary (Piece.join .list [leaf opened, piece, leaf closed]) := by
  have joined : Piece.join .list [leaf opened, piece, leaf closed] =
      ⟨opened :: (piece.placed ++ [closed]), .plain, piece.strands⟩ := by
    simp [Piece.join, Rule.opening, leaf]
  rw [joined]
  exact Takes.enclosed (opens ▸ list_known) closes (by simp [opens]) (opens ▸ rfl) takes rfl rfl
    rfl

theorem takes_dict (takes : TakesUpTo (entries whole) startsOperand endsItem piece)
    (opens : opened.token = .mark .openBrace) (closes : closed.token = .mark .closeBrace) :
    Takes (factor whole) IsPrimary (Piece.join .dictLiteral [leaf opened, piece, leaf closed]) := by
  have joined : Piece.join .dictLiteral [leaf opened, piece, leaf closed] =
      ⟨opened :: (piece.placed ++ [closed]), .plain, piece.strands⟩ := by
    simp [Piece.join, Rule.opening, leaf]
  rw [joined]
  exact Takes.enclosed (opens ▸ dict_known) closes (by simp [opens]) (opens ▸ rfl) takes rfl rfl
    rfl

/-- At an operator a list of items ends. -/
theorem ifNext_jams {α : Type} {token : Token} {present : Parse α} {value : α} {first : Placed}
    {rest : List Placed} (known : isOperator first.token = true)
    (unlike : isOperator token = false) :
    Jams (ifNext token present (pure value)) (first :: rest) :=
  jams_of_ok (ifNext_left (.cons (by simpa using ne_of_isOperator known unlike))) known

section

variable {α : Type} {element : Parse α} {list : Parse (List α)}

theorem TakesUpTo.item (unfolds : list = separated element list)
    (takes : TakesUpTo element startsOperand endsExpression piece) :
    TakesUpTo list startsOperand endsItem piece := by
  rw [unfolds]
  refine ⟨takes.starts, ?_, ?_⟩
  · intro free
    obtain ⟨value, read⟩ := takes.consumes free
    refine ⟨[value], ?_⟩
    intro rest ahead
    have ends : Ahead endsExpression rest := ahead.mono fun _ passes => by simp_all [endsItem]
    have noComma : Ahead (· ≠ .mark .comma) rest := ahead.mono fun _ passes => by
      simp_all [endsItem]
    rw [separated, bind_of_ok (read rest ends), ifNext_left noComma, pure_apply]
  · intro strands rest
    exact (takes.jams strands rest).bind fun _ _ _ known => ifNext_jams known rfl

theorem TakesUpTo.items (unfolds : list = separated element list)
    (takes : TakesUpTo element startsOperand endsExpression piece)
    (takesOthers : TakesUpTo list startsOperand endsItem others) {comma : Placed}
    (isComma : comma.token = .mark .comma) :
    TakesUpTo list startsOperand endsItem
      ⟨piece.placed ++ comma :: others.placed, .plain, piece.strands || others.strands⟩ := by
  obtain ⟨token, position⟩ := comma
  obtain rfl : token = .mark .comma := isComma
  refine ⟨takes.starts.append _, ?_, ?_⟩
  · intro free
    obtain ⟨freeFirst, freeOthers⟩ := Bool.or_eq_false_iff.mp free
    obtain ⟨value, read⟩ := takes.consumes freeFirst
    obtain ⟨values, readOthers⟩ := takesOthers.consumes freeOthers
    refine ⟨value :: values, ?_⟩
    intro rest ahead
    rw [List.append_assoc, List.cons_append, congrFun unfolds, separated,
      bind_of_ok (read _ (.cons rfl)), ifNext_taken, bind_of_ok (readOthers rest ahead), pure_apply]
  · intro strands rest
    rw [List.append_assoc, List.cons_append]
    cases strandsFirst : piece.strands with
    | true =>
        rw [unfolds]
        exact (takes.jams strandsFirst _).bind fun _ _ _ known => ifNext_jams known rfl
    | false =>
        have strandsOthers : others.strands = true := by simpa [strandsFirst] using strands
        obtain ⟨value, read⟩ := takes.consumes strandsFirst
        have jams := (takesOthers.jams strandsOthers rest).map fun items => value :: items
        apply jams.of_eq
        rw [congrFun unfolds, separated, bind_of_ok (read _ (.cons rfl)), ifNext_taken]

end

theorem TakesExpression.entry {key value : Piece} (takes : TakesExpression key)
    (takesValue : TakesExpression value) {colon : Placed} (isColon : colon.token = .mark .colon) :
    TakesUpTo Parse.entry startsOperand endsExpression
      ⟨key.placed ++ colon :: value.placed, .plain, key.strands || value.strands⟩ := by
  obtain ⟨token, position⟩ := colon
  obtain rfl : token = .mark .colon := isColon
  refine ⟨takes.starts.append _, ?_, ?_⟩
  · intro free
    obtain ⟨freeKey, freeValue⟩ := Bool.or_eq_false_iff.mp free
    obtain ⟨found, read⟩ := (takes.form freeKey).consumes
    obtain ⟨foundValue, readValue⟩ := (takesValue.form freeValue).consumes
    refine ⟨(found, foundValue), ?_⟩
    intro rest ahead
    rw [List.append_assoc, List.cons_append, Parse.entry, bind_of_ok (read _ (.cons rfl)),
      mark_taken, bind_of_ok (readValue rest ahead), pure_apply]
  · intro strands rest
    rw [List.append_assoc, List.cons_append]
    cases strandsKey : key.strands with
    | true => exact (bracket_fails (takes.jams strandsKey) rfl _ _).jams
    | false =>
        have strandsValue : value.strands = true := by simpa [strandsKey] using strands
        obtain ⟨found, read⟩ := (takes.form strandsKey).consumes
        have jams := (takesValue.jams strandsValue rest).map fun second => (found, second)
        apply jams.of_eq
        rw [Parse.entry, bind_of_ok (read _ (.cons rfl)), mark_taken]

/-- What the parser of arguments does with a call, behind its name and parenthesis. -/
structure TakesCall (piece : Piece) : Prop where
  plain : piece.opening = .plain
  reads : ∃ word position opened inside,
    piece.placed = ⟨.name word, position⟩ :: ⟨.mark .openParen, opened⟩ :: inside ∧
      (piece.strands = false → ∃ found, ∀ rest,
        arguments whole (inside ++ rest) = .ok (found, rest)) ∧
      (piece.strands = true → ∀ rest, Fails (arguments whole) (inside ++ rest))

theorem TakesCall.primary (takes : TakesCall piece) :
    Takes (factor whole) IsPrimary piece := by
  obtain ⟨word, position, opened, inside, same, reads, fails⟩ := takes.reads
  have entered : ∀ rest, factor whole (piece.placed ++ rest) =
      ((do return Expr.call word (← arguments whole)) >>= indices whole) (inside ++ rest) := by
    intro rest
    rw [same, List.cons_append, List.cons_append, factor_taken rfl]
    apply bind_congr_apply
    rw [ifNext_taken]
  refine ⟨⟨_, _, same, rfl⟩, ?_, ?_, ?_⟩
  · intro free
    obtain ⟨found, read⟩ := reads free
    refine ⟨.call word found, ?_⟩
    intro rest _
    rw [entered, bind_pure, bind_assoc, bind_of_ok (read rest), pure_bind]
  · intro _
    rw [takes.plain, same]
    exact opens_plain _ nofun
  · intro strands rest
    exact (((fails strands rest).bind _).bind _).of_eq (entered rest)

theorem takes_call_empty (word : String) (position : Nat) (opened closed : Nat) :
    TakesCall (Piece.join .functionCall [leaf ⟨.name word, position⟩,
      leaf ⟨.mark .openParen, opened⟩, leaf ⟨.mark .closeParen, closed⟩]) := by
  refine ⟨rfl, word, position, opened, [⟨.mark .closeParen, closed⟩], rfl, ?_, nofun⟩
  intro _
  refine ⟨[], ?_⟩
  intro rest
  rw [arguments_whole, enclosed, List.cons_append, ifNext_taken, List.nil_append, pure_apply]

theorem takes_call (takes : TakesUpTo (expressions whole) startsOperand endsItem piece)
    (word : String) (position opened closed : Nat) :
    TakesCall (Piece.join .functionCall [leaf ⟨.name word, position⟩,
      leaf ⟨.mark .openParen, opened⟩, piece, leaf ⟨.mark .closeParen, closed⟩]) := by
  have joined : Piece.join .functionCall [leaf ⟨.name word, position⟩,
      leaf ⟨.mark .openParen, opened⟩, piece, leaf ⟨.mark .closeParen, closed⟩] =
      ⟨⟨.name word, position⟩ :: ⟨.mark .openParen, opened⟩ ::
        (piece.placed ++ [⟨.mark .closeParen, closed⟩]), .plain, piece.strands⟩ := by
    simp [Piece.join, Rule.opening, leaf]
  rw [joined]
  refine ⟨rfl, word, position, opened, _, rfl, ?_, ?_⟩
  · intro free
    obtain ⟨found, read⟩ := enclosed_taken [] id (takes.consumes free)
      (show endsItem (.mark .closeParen) = true from rfl) takes.starts rfl
    refine ⟨found, ?_⟩
    intro rest
    rw [arguments_whole, List.append_assoc]
    exact read closed rest
  · intro strands rest
    rw [arguments_whole, List.append_assoc]
    exact enclosed_fails [] id (takes.jams strands) rfl takes.starts rfl _

end

end Parse

end Stepwise
