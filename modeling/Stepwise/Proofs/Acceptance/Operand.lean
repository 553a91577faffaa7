import Stepwise.Proofs.NextToken
import Stepwise.Proofs.Stranding

/-!
# Operands and what goes on behind them

What the parsers of operands do in front of tokens that have a derivation.  A phrase that strands no
operator is taken: the parser goes on behind it as if it had just read the last operand of the phrase,
so that more indices and operators may follow.  `Runs` states this for the phrases of each level.  How
an expression opens decides between the two ways in which a parenthesis at its start is read, which is
what `Opens` is about.

In a phrase that strands an operator the parser fails, or, at the level of expressions, it leaves the
operator: it jams.  No phrase goes on with an operator behind a whole expression, so jamming is carried
on to the end.
-/

namespace Stepwise

open Grammar
open Phrases (whole)

namespace Parse

variable {α β : Type}

/-- The parser fails on the tokens. -/
def Fails (parse : Parse α) (tokens : List Placed) : Prop :=
  ∃ stop, parse tokens = .error stop

/-- The parser fails on the tokens or leaves an operator. -/
def Jams (parse : Parse α) (tokens : List Placed) : Prop :=
  ∀ value rest, parse tokens = .ok (value, rest) →
    ∃ first others, rest = first :: others ∧ isOperator first.token = true

section

variable {parse : Parse α} {next : α → Parse β} {tokens rest : List Placed} {value : α}

theorem Fails.jams (fails : Fails parse tokens) : Jams parse tokens := by
  obtain ⟨stop, failed⟩ := fails
  intro value rest read
  rw [failed] at read
  cases read

theorem Fails.bind (fails : Fails parse tokens) (next : α → Parse β) :
    Fails (parse >>= next) tokens := by
  obtain ⟨stop, failed⟩ := fails
  exact ⟨stop, bind_of_error failed next⟩

theorem Fails.of_eq {parse' : Parse α} {tokens' : List Placed} (fails : Fails parse tokens)
    (same : parse' tokens' = parse tokens) : Fails parse' tokens' := by
  obtain ⟨stop, failed⟩ := fails
  exact ⟨stop, same.trans failed⟩

theorem Jams.of_eq {parse' : Parse α} {tokens' : List Placed} (jams : Jams parse tokens)
    (same : parse' tokens' = parse tokens) : Jams parse' tokens' := by
  intro value rest read
  exact jams value rest (same.symm.trans read)

/-- What goes on after a jam and cannot start with an operator fails. -/
theorem Jams.bind_fails (jams : Jams parse tokens)
    (fails : ∀ value first others, isOperator first.token = true →
      Fails (next value) (first :: others)) : Fails (parse >>= next) tokens := by
  cases read : parse tokens with
  | error stop => exact ⟨stop, bind_of_error read next⟩
  | ok pair =>
      obtain ⟨first, others, leaves, known⟩ := jams pair.1 pair.2 read
      apply (fails pair.1 first others known).of_eq
      rw [bind_of_ok read, leaves]

/-- What goes on after a jam and jams at an operator jams. -/
theorem Jams.bind (jams : Jams parse tokens)
    (jamsNext : ∀ value first others, isOperator first.token = true →
      Jams (next value) (first :: others)) : Jams (parse >>= next) tokens := by
  cases read : parse tokens with
  | error stop => exact Fails.jams ⟨stop, bind_of_error read next⟩
  | ok pair =>
      obtain ⟨first, others, leaves, known⟩ := jams pair.1 pair.2 read
      apply (jamsNext pair.1 first others known).of_eq
      rw [bind_of_ok read, leaves]

theorem jams_of_ok {first : Placed} {others : List Placed}
    (read : parse tokens = .ok (value, first :: others)) (known : isOperator first.token = true) :
    Jams parse tokens := by
  intro found rest again
  rw [read] at again
  cases again
  exact ⟨first, others, rfl, known⟩

theorem Jams.map (jams : Jams parse tokens) (wrap : α → β) :
    Jams (do return wrap (← parse)) tokens :=
  jams.bind fun _ _ _ known => jams_of_ok rfl known

theorem take_fails {read : Token → Option α} {first : Placed} (unknown : read first.token = none)
    (next : α → Parse β) (rest : List Placed) : Fails (take read >>= next) (first :: rest) := by
  refine ⟨first :: rest, ?_⟩
  rw [bind_apply, take, choose_cons, unknown]
  rfl

end

theorem keyword_fails {first : Placed} (known : isOperator first.token = true)
    (reserved : Keyword) (next : Unit → Parse α) (rest : List Placed) :
    Fails (keyword reserved >>= next) (first :: rest) :=
  take_fails (if_neg (ne_of_isOperator known rfl)) next rest

theorem mark_fails {first : Placed} (known : isOperator first.token = true) {sign : Mark}
    (unlike : isOperator (.mark sign) = false) (next : Unit → Parse α) (rest : List Placed) :
    Fails (mark sign >>= next) (first :: rest) :=
  take_fails (if_neg (ne_of_isOperator known unlike)) next rest

/-- The parser takes `used` in front of a token that ends it. -/
def Consumes (parse : Parse α) (stops : Token → Bool) (used : List Placed) : Prop :=
  ∃ value, ∀ rest, Ahead stops rest → parse (used ++ rest) = .ok (value, rest)

/-- A stretch that starts with a token of some kind. -/
def Starts (test : Token → Bool) (used : List Placed) : Prop :=
  ∃ first others, used = first :: others ∧ test first.token = true

theorem Starts.append {test : Token → Bool} {used : List Placed} (starts : Starts test used)
    (more : List Placed) : Starts test (used ++ more) := by
  obtain ⟨first, others, rfl, passes⟩ := starts
  exact ⟨first, others ++ more, rfl, passes⟩

theorem Starts.ahead {test other : Token → Bool} {used : List Placed} (starts : Starts test used)
    (implied : ∀ token, test token = true → other token = true) (rest : List Placed) :
    Ahead other (used ++ rest) := by
  obtain ⟨first, others, rfl, passes⟩ := starts
  exact .cons (implied _ passes)

theorem Starts.ahead_ne {test : Token → Bool} {used : List Placed} (starts : Starts test used)
    {other : Token} (unlike : test other = false) (rest : List Placed) :
    Ahead (· ≠ other) (used ++ rest) := by
  apply starts.ahead
  intro token passes
  rw [decide_eq_true_eq]
  rintro rfl
  rw [unlike] at passes
  cases passes

/-- What a parser does with a phrase that is whole once a token follows that ends it. -/
structure TakesUpTo (parse : Parse α) (starts stops : Token → Bool) (piece : Piece) : Prop where
  starts : Starts starts piece.placed
  consumes : piece.strands = false → Consumes parse stops piece.placed
  jams : piece.strands = true → ∀ rest, Jams parse (piece.placed ++ rest)

/-! ## Operands -/

/-- The parser takes all of `used`, and goes on behind it as if it had read `last`: with its indices,
and then with `next`. -/
def Runs (run : Parse Expr) (used : List Placed) (last : Expr) (next : Expr → Parse Expr) : Prop :=
  ∀ rest, Ahead (· ≠ .mark .openParen) rest →
    run (used ++ rest) = (indices whole last >>= next) rest

/-- How the parser of whole expressions takes `used`, by how its phrase opens. -/
def Opens (used : List Placed) : Opening → Prop
  | .plain =>
    ∀ rest, expression whole (used ++ rest) = (factor whole >>= operation whole) (used ++ rest)
  | .group =>
    ∃ group, ∀ rest, expression whole (used ++ rest) = afterGroup whole group rest ∧
      factor whole (used ++ rest) = indices whole group rest
  | .indexed => ∃ last, ∀ rest, expression whole (used ++ rest) = indices whole last rest
  | .stranded => ∀ rest, Jams (expression whole) (used ++ rest)

/-- What a parser does with a phrase of operands. -/
structure Takes (run : Parse Expr) (form : List Placed → Prop) (piece : Piece) : Prop where
  starts : Starts startsOperand piece.placed
  form : piece.strands = false → form piece.placed
  opens : piece.strands = false → Opens piece.placed piece.opening
  fails : piece.strands = true → ∀ rest, Fails run (piece.placed ++ rest)

/-- A parser that leaves what it has read as it is, unless an operator follows. -/
def Settles (next : Expr → Parse Expr) : Prop :=
  ∃ wrap : Expr → Expr, ∀ left rest, Ahead endsOperands rest →
    next left rest = .ok (wrap left, rest)

/-- A stretch that is read as a primary expression. -/
def IsPrimary (used : List Placed) : Prop :=
  ∃ last, Runs (factor whole) used last pure

/-- A stretch that is read as a factor. -/
def IsFactor (used : List Placed) : Prop :=
  ∃ (last : Expr) (wrap : Expr → Expr),
    Runs (factor whole) used last fun operand => pure (wrap operand)

/-- A stretch that is read as a term. -/
def IsTerm (used : List Placed) : Prop :=
  ∃ (last : Expr) (wrap : Expr → Expr),
    Runs term used last fun operand => product whole (wrap operand)

/-- A stretch that is read as a sum. -/
def IsArithmetic (used : List Placed) : Prop :=
  ∃ (last : Expr) (wrap outer : Expr → Expr), Runs arithmetic used last fun operand => do
    sum whole (outer (← product whole (wrap operand)))

/-- A stretch that is read as operands and operators, before anything is known on how it opens. -/
def IsOperation (used : List Placed) : Prop :=
  ∃ last next, Settles next ∧ Runs (factor whole >>= operation whole) used last next

theorem IsPrimary.isFactor {used : List Placed} (read : IsPrimary used) : IsFactor used := by
  obtain ⟨last, runs⟩ := read
  exact ⟨last, id, runs⟩

theorem IsFactor.isTerm {used : List Placed} (read : IsFactor used) : IsTerm used := by
  obtain ⟨last, wrap, runs⟩ := read
  refine ⟨last, wrap, ?_⟩
  intro rest ahead
  rw [Parse.term, bind_congr_apply (runs rest ahead), bind_assoc]
  simp only [pure_bind]

theorem IsTerm.isArithmetic {used : List Placed} (read : IsTerm used) : IsArithmetic used := by
  obtain ⟨last, wrap, runs⟩ := read
  refine ⟨last, wrap, id, ?_⟩
  intro rest ahead
  rw [Parse.arithmetic, bind_congr_apply (runs rest ahead), bind_assoc]
  rfl

/-- Without an operator behind it a sum is all. -/
theorem settles_sum (wrap outer : Expr → Expr) :
    Settles (fun operand => do sum whole (outer (← product whole (wrap operand)))) := by
  refine ⟨fun operand => outer (wrap operand), ?_⟩
  intro left rest ahead
  exact (bind_of_ok (product_left _ ahead.noMultiplying) _).trans (sum_left _ ahead.noAdding)

theorem Settles.bind {next more : Expr → Parse Expr} (settles : Settles next)
    (settlesMore : Settles more) : Settles fun operand => next operand >>= more := by
  obtain ⟨wrap, read⟩ := settles
  obtain ⟨wrapMore, readMore⟩ := settlesMore
  refine ⟨fun operand => wrapMore (wrap operand), ?_⟩
  intro left rest ahead
  exact (bind_of_ok (read left rest ahead) more).trans (readMore _ rest ahead)

theorem settles_comparison : Settles (comparison whole) :=
  ⟨id, fun left _ ahead => comparison_left left ahead.noComparing⟩

theorem settles_pure (wrap : Expr → Expr) : Settles fun operand => pure (wrap operand) :=
  ⟨wrap, fun _ _ _ => rfl⟩

theorem IsArithmetic.isOperation {used : List Placed} (read : IsArithmetic used) :
    IsOperation used := by
  obtain ⟨last, wrap, outer, runs⟩ := read
  refine ⟨last, _, (settles_sum wrap outer).bind settles_comparison, ?_⟩
  intro rest ahead
  rw [operation_eq_arithmetic, bind_congr_apply (runs rest ahead), bind_assoc]

section

variable {left right : List Placed} {first : Placed} {operator : Operator}

theorem ahead_of_operator (known : isOperator first.token = true) (rest : List Placed) :
    Ahead (· ≠ .mark .openParen) (first :: rest) :=
  .cons (by simpa using ne_of_isOperator known rfl)

/-- The parser goes on with the right operand of a product. -/
theorem IsTerm.before_operator (read : IsTerm left)
    (known : multiplyingOperator? first.token = some operator) :
    ∃ operand, ∀ rest, term (left ++ first :: rest) =
      (do product whole (.binary operator operand (← factor whole))) rest := by
  obtain ⟨last, wrap, runs⟩ := read
  have isOperator := isOperator_of_multiplying known
  refine ⟨wrap last, ?_⟩
  intro rest
  rw [runs _ (ahead_of_operator isOperator rest),
    bind_of_ok (indices_before_operator isOperator last rest), product_taken known]

theorem IsArithmetic.before_operator (read : IsArithmetic left)
    (known : addingOperator? first.token = some operator) :
    ∃ operand, ∀ rest, arithmetic (left ++ first :: rest) =
      (do sum whole (.binary operator operand (← term))) rest := by
  obtain ⟨last, wrap, outer, runs⟩ := read
  have isOperator := isOperator_of_adding known
  have noProduct : Ahead (fun token => (multiplyingOperator? token).isNone) [first] := by
    apply Ahead.cons
    revert known
    cases first.token with
    | mark sign => cases sign <;> simp [addingOperator?, multiplyingOperator?]
    | _ => simp [addingOperator?]
  refine ⟨outer (wrap last), ?_⟩
  intro rest
  rw [runs _ (ahead_of_operator isOperator rest),
    bind_of_ok (indices_before_operator isOperator last rest),
    bind_of_ok (product_left _ (.cons noProduct.head)), sum_taken known, term, bind_assoc]

theorem IsArithmetic.before_comparison (read : IsArithmetic left)
    (known : comparingOperator? first.token = some operator) :
    ∃ operand, ∀ rest, (factor whole >>= operation whole) (left ++ first :: rest) =
      (do return Expr.binary operator operand (← arithmetic)) rest := by
  obtain ⟨last, wrap, outer, runs⟩ := read
  have isOperator := isOperator_of_comparing known
  have neither : Ahead (fun token => (multiplyingOperator? token).isNone) [first] ∧
      Ahead (fun token => (addingOperator? token).isNone) [first] := by
    constructor <;> apply Ahead.cons <;> revert known <;> cases first.token with
      | mark sign => cases sign <;> simp [comparingOperator?, addingOperator?, multiplyingOperator?]
      | _ => simp [comparingOperator?]
  refine ⟨outer (wrap last), ?_⟩
  intro rest
  rw [operation_eq_arithmetic, bind_congr_apply (runs _ (ahead_of_operator isOperator rest)),
    bind_assoc, bind_of_ok (indices_before_operator isOperator last rest), bind_assoc,
    bind_of_ok (product_left _ (.cons neither.1.head)),
    bind_of_ok (sum_left _ (.cons neither.2.head)), comparison_taken known, arithmetic, term]
  simp only [bind_assoc]

theorem IsTerm.multiply (read : IsTerm left)
    (known : multiplyingOperator? first.token = some operator) (readRight : IsFactor right) :
    IsTerm (left ++ first :: right) := by
  obtain ⟨operand, goesOn⟩ := read.before_operator known
  obtain ⟨last, wrap, runs⟩ := readRight
  refine ⟨last, fun factor => .binary operator operand (wrap factor), ?_⟩
  intro rest ahead
  rw [List.append_assoc, List.cons_append, goesOn, bind_congr_apply (runs rest ahead), bind_assoc]
  simp only [pure_bind]

theorem IsArithmetic.add (read : IsArithmetic left)
    (known : addingOperator? first.token = some operator) (readRight : IsTerm right) :
    IsArithmetic (left ++ first :: right) := by
  obtain ⟨operand, goesOn⟩ := read.before_operator known
  obtain ⟨last, wrap, runs⟩ := readRight
  refine ⟨last, wrap, fun term => .binary operator operand term, ?_⟩
  intro rest ahead
  rw [List.append_assoc, List.cons_append, goesOn, bind_congr_apply (runs rest ahead), bind_assoc]

theorem IsArithmetic.compare (read : IsArithmetic left)
    (known : comparingOperator? first.token = some operator) (readRight : IsArithmetic right) :
    IsOperation (left ++ first :: right) := by
  obtain ⟨operand, goesOn⟩ := read.before_comparison known
  obtain ⟨last, wrap, outer, runs⟩ := readRight
  refine ⟨last, _, (settles_sum wrap outer).bind (settles_pure (.binary operator operand)), ?_⟩
  intro rest ahead
  rw [List.append_assoc, List.cons_append, goesOn, bind_congr_apply (runs rest ahead), bind_assoc]

end

/-! ## How expressions open -/

section

variable {used within : List Placed} {opening : Opening} {first : Placed}

theorem indices_closed (closed : Consumes (expression whole) endsExpression within) :
    ∃ key, ∀ container opened ends rest,
      indices whole container
          (⟨.mark .openBracket, opened⟩ :: (within ++ ⟨.mark .closeBracket, ends⟩ :: rest)) =
        indices whole (.index container key) rest := by
  obtain ⟨key, read⟩ := closed
  refine ⟨key, ?_⟩
  intro container opened ends rest
  rw [indices_taken, bind_of_ok (read _ (.cons rfl)), mark_taken]

theorem IsPrimary.index (read : IsPrimary used)
    (closed : Consumes (expression whole) endsExpression within) (opened ends : Nat) :
    IsPrimary
      (used ++ ⟨.mark .openBracket, opened⟩ :: (within ++ [⟨.mark .closeBracket, ends⟩])) := by
  obtain ⟨last, runs⟩ := read
  obtain ⟨key, indexed⟩ := indices_closed closed
  refine ⟨.index last key, ?_⟩
  intro rest _
  have ahead : Ahead (· ≠ .mark .openParen) (⟨.mark .openBracket, opened⟩ ::
      (within ++ ⟨.mark .closeBracket, ends⟩ :: rest)) := .cons rfl
  simp only [List.append_assoc, List.cons_append, List.nil_append]
  rw [runs _ ahead, bind_congr_apply (indexed last opened ends rest)]

theorem Opens.index (opens : Opens used opening)
    (closed : Consumes (expression whole) endsExpression within) (opened ends : Nat) :
    Opens (used ++ ⟨.mark .openBracket, opened⟩ :: (within ++ [⟨.mark .closeBracket, ends⟩]))
      opening.withIndex := by
  obtain ⟨key, indexed⟩ := indices_closed closed
  cases opening with
  | plain =>
      intro rest
      rw [List.append_assoc, opens]
  | group =>
      obtain ⟨group, both⟩ := opens
      refine ⟨.index group key, ?_⟩
      intro rest
      simp only [List.append_assoc, List.cons_append, List.nil_append]
      rw [(both _).1, afterGroup_indices group (.cons rfl), indexed]
  | indexed =>
      obtain ⟨last, runs⟩ := opens
      refine ⟨.index last key, ?_⟩
      intro rest
      simp only [List.append_assoc, List.cons_append, List.nil_append]
      rw [runs, indexed]
  | stranded =>
      intro rest
      rw [List.append_assoc]
      exact opens _

/-- Behind an indexed group an operator is left, whatever follows it. -/
theorem Opens.operator (opens : Opens used opening) (known : isOperator first.token = true)
    (more : List Placed) : Opens (used ++ first :: more) opening.withOperator := by
  cases opening with
  | plain =>
      intro rest
      rw [List.append_assoc, opens]
  | group =>
      obtain ⟨group, both⟩ := opens
      intro rest
      rw [List.append_assoc, List.cons_append, (both _).1, afterGroup_operator group known,
        bind_congr_apply (both _).2, bind_of_ok (indices_before_operator known group _)]
  | indexed =>
      obtain ⟨last, runs⟩ := opens
      intro rest
      rw [List.append_assoc, List.cons_append]
      exact jams_of_ok ((runs _).trans (indices_before_operator known last _)) known
  | stranded =>
      intro rest
      rw [List.append_assoc]
      exact opens _

theorem opens_plain {first : Placed} (rest : List Placed)
    (other : first.token ≠ .mark .openParen) : Opens (first :: rest) .plain :=
  fun _ => expression_plain (.cons (by simpa using other))

end

end Parse

end Stepwise
