import Stepwise.Program.Parser

/-!
# Parsers of phrases of any depth

All parsers are built from a few building blocks, `Parse.Made`.  So they read from left to right,
`Parse.Online`: whether they take a token depends on this token and those before it.

`Phrases.upTo` bounds how deeply phrases may be nested.  This module removes the bound.  A parser of
a phrase calls the parsers of the phrases within it only after it has taken a token, so two families
of inner parsers that agree on all shorter token lists give the same result.  It follows that the
families `upTo depth` settle: on a list of tokens every depth above its length gives the same result,
and `Phrases.whole` collects these results.  `Phrases.around_whole` says that `whole` is a fixed
point, which is how all later modules open a parser.
-/

namespace Stepwise

namespace Parse

variable {α β : Type}

/-! ## Results of the building blocks -/

theorem bind_apply (parse : Parse α) (next : α → Parse β) (tokens : List Placed) :
    (parse >>= next) tokens =
      (match parse tokens with
      | .ok (value, rest) => next value rest
      | .error rest => .error rest) := by
  change (parse tokens >>= fun result => next result.1 result.2) = _
  cases parse tokens <;> rfl

theorem bind_of_ok {parse : Parse α} {tokens rest : List Placed} {value : α}
    (read : parse tokens = .ok (value, rest)) (next : α → Parse β) :
    (parse >>= next) tokens = next value rest := by
  rw [bind_apply, read]

theorem bind_of_error {parse : Parse α} {tokens rest : List Placed}
    (failed : parse tokens = .error rest) (next : α → Parse β) :
    (parse >>= next) tokens = .error rest := by
  rw [bind_apply, failed]

theorem bind_congr_apply {parse parse' : Parse α} {tokens tokens' : List Placed}
    (same : parse tokens = parse' tokens') (next : α → Parse β) :
    (parse >>= next) tokens = (parse' >>= next) tokens' := by
  rw [bind_apply, bind_apply, same]

theorem bind_eq_ok {parse : Parse α} {next : α → Parse β} {tokens rest : List Placed}
    {result : β} :
    (parse >>= next) tokens = .ok (result, rest) ↔
      ∃ value middle, parse tokens = .ok (value, middle) ∧
        next value middle = .ok (result, rest) := by
  rw [bind_apply]
  constructor
  · intro read
    cases first : parse tokens with
    | error stop => simp [first] at read
    | ok pair =>
        rw [first] at read
        exact ⟨pair.1, pair.2, rfl, read⟩
  · rintro ⟨value, middle, first, second⟩
    rw [first]
    exact second

@[simp] theorem pure_apply (value : α) (tokens : List Placed) :
    (pure value : Parse α) tokens = .ok (value, tokens) := rfl

@[simp] theorem stuck_apply (tokens : List Placed) :
    (stuck : Parse α) tokens = .error tokens := rfl

theorem choose_cons (next : Token → Option (Parse α)) (other : Parse α) (first : Placed)
    (rest : List Placed) :
    choose next other (first :: rest) =
      (match next first.token with
      | some parse => parse rest
      | none => other (first :: rest)) := rfl

theorem choose_some {next : Token → Option (Parse α)} {first : Placed} {parse : Parse α}
    (known : next first.token = some parse) (other : Parse α) (rest : List Placed) :
    choose next other (first :: rest) = parse rest := by
  rw [choose_cons, known]

theorem choose_none {next : Token → Option (Parse α)} {first : Placed}
    (unknown : next first.token = none) (other : Parse α) (rest : List Placed) :
    choose next other (first :: rest) = other (first :: rest) := by
  rw [choose_cons, unknown]

/-! ## Reading from left to right -/

/-- What remains of the tokens: those that a parser leaves, or those from the one on that it is stuck
at. -/
def remaining : Except (List Placed) (α × List Placed) → List Placed
  | .ok (_, rest) => rest
  | .error rest => rest

/-- A parser that gives a result, or is stuck, with tokens left. -/
def stopping : Option α → List Placed → Except (List Placed) (α × List Placed)
  | some value, rest => .ok (value, rest)
  | none, rest => .error rest

/-- A parser that reads from left to right.  What remains is the end of what it was given.  In front
of a token it stops, whatever follows the token, or it takes the token, whatever follows. -/
structure Online (parse : Parse α) : Prop where
  suffix : ∀ tokens, remaining (parse tokens) <:+ tokens
  decided : ∀ before token,
    (∃ result kept, ∀ after,
      parse (before ++ token :: after) = stopping result (kept ++ token :: after)) ∨
      ∀ after, remaining (parse (before ++ token :: after)) <:+ after

namespace Online

theorem leaves {parse : Parse α} (online : Online parse) {tokens rest : List Placed} {value : α}
    (read : parse tokens = .ok (value, rest)) : rest <:+ tokens := by
  have suffix := online.suffix tokens
  rwa [read] at suffix

theorem pure (value : α) : Online (Pure.pure value : Parse α) where
  suffix := List.suffix_refl
  decided before _ := .inl ⟨some value, before, fun _ => rfl⟩

theorem stuck : Online (Parse.stuck : Parse α) where
  suffix := List.suffix_refl
  decided before _ := .inl ⟨none, before, fun _ => rfl⟩

theorem remaining_bind {parse : Parse α} {next : α → Parse β}
    (second : ∀ value, Online (next value)) (tokens : List Placed) :
    remaining ((parse >>= next) tokens) <:+ remaining (parse tokens) := by
  rw [bind_apply]
  cases parse tokens with
  | error rest => exact List.suffix_refl rest
  | ok pair => exact (second pair.1).suffix pair.2

theorem bind {parse : Parse α} {next : α → Parse β} (first : Online parse)
    (second : ∀ value, Online (next value)) : Online (parse >>= next) where
  suffix tokens := (remaining_bind second tokens).trans (first.suffix tokens)
  decided before token := by
    rcases first.decided before token with ⟨result, kept, stops⟩ | takes
    · cases result with
      | none => exact .inl ⟨none, kept, fun after => bind_of_error (stops after) next⟩
      | some value =>
          -- the second parser starts where the first one stopped, in front of the same token
          rcases (second value).decided kept token with ⟨result, kept', stops'⟩ | takes'
          · exact .inl ⟨result, kept', fun after =>
              (bind_of_ok (stops after) next).trans (stops' after)⟩
          · refine .inr fun after => ?_
            rw [bind_of_ok (stops after)]
            exact takes' after
    · exact .inr fun after => (remaining_bind second _).trans (takes after)

theorem choose {next : Token → Option (Parse α)} {other : Parse α}
    (taken : ∀ token, ∀ parse ∈ next token, Online parse) (left : Online other) :
    Online (Parse.choose next other) where
  suffix tokens := by
    cases tokens with
    | nil => exact left.suffix []
    | cons first rest =>
        cases known : next first.token with
        | none =>
            rw [choose_none known]
            exact left.suffix (first :: rest)
        | some parse =>
            rw [choose_some known]
            exact ((taken _ parse known).suffix rest).trans (List.suffix_cons first rest)
  decided before token := by
    cases before with
    | nil =>
        cases known : next token.token with
        | none => simpa only [List.nil_append, choose_none known] using left.decided [] token
        | some parse =>
            refine .inr fun after => ?_
            rw [List.nil_append, choose_some known]
            exact (taken _ parse known).suffix after
    | cons first rest =>
        cases known : next first.token with
        | none =>
            simpa only [List.cons_append, choose_none known] using left.decided (first :: rest) token
        | some parse =>
            simpa only [List.cons_append, choose_some known] using
              (taken _ parse known).decided rest token

theorem follows (test : Token → Bool) : Online (Parse.follows test) where
  suffix tokens := by cases tokens <;> exact List.suffix_refl _
  decided before token := by
    cases before with
    | nil => exact .inl ⟨some (test token.token), [], fun _ => rfl⟩
    | cons first rest => exact .inl ⟨some (test first.token), first :: rest, fun _ => rfl⟩

end Online

/-! ## Building blocks -/

/-- Parsers that are built from the building blocks.  What holds of these and is kept when parsers are
put together holds of all parsers of phrases. -/
inductive Made : {α : Type} → Parse α → Prop where
  | pure {α : Type} (value : α) : Made (Pure.pure value : Parse α)
  | stuck {α : Type} : Made (Parse.stuck : Parse α)
  | follows (test : Token → Bool) : Made (Parse.follows test)
  | bind {α β : Type} {parse : Parse α} {next : α → Parse β} : Made parse →
      (∀ value, Made (next value)) → Made (parse >>= next)
  | choose {α : Type} {next : Token → Option (Parse α)} {other : Parse α} :
      (∀ token, ∀ parse ∈ next token, Made parse) → Made other → Made (Parse.choose next other)

namespace Made

theorem take (read : Token → Option α) : Made (Parse.take read) := by
  apply choose _ stuck
  intro token parse known
  obtain ⟨value, -, rfl⟩ := Option.map_eq_some_iff.mp known
  exact pure value

theorem ifNext {token : Token} {present absent : Parse α} (taken : Made present)
    (left : Made absent) : Made (Parse.ifNext token present absent) := by
  apply choose _ left
  intro next parse known
  split at known
  · cases known
    exact taken
  · cases known

theorem afterOperator {kind : Token → Option Operator} {left : Expr}
    {go : Operator → Parse Expr} (taken : ∀ operator, Made (go operator)) :
    Made (Parse.afterOperator kind left go) := by
  apply choose _ (pure left)
  intro token parse known
  obtain ⟨operator, -, rfl⟩ := Option.map_eq_some_iff.mp known
  exact taken operator

theorem online {parse : Parse α} (made : Made parse) : Online parse := by
  induction made with
  | pure value => exact .pure value
  | stuck => exact .stuck
  | follows test => exact .follows test
  | bind _ _ first second => exact .bind first second
  | choose _ _ taken left => exact .choose taken left

end Made

theorem Online.take (read : Token → Option α) : Online (Parse.take read) :=
  (Made.take read).online

/-! ## Agreement on short lists of tokens -/

/-- Two parsers give the same result on all lists of fewer tokens than `bound`. -/
def AgreeBelow (bound : Nat) (left right : Parse α) : Prop :=
  ∀ tokens, tokens.length < bound → left tokens = right tokens

namespace AgreeBelow

variable {bound : Nat}

theorem refl (parse : Parse α) : AgreeBelow bound parse parse :=
  fun _ _ => rfl

theorem anti {smaller : Nat} {left right : Parse α} (agree : AgreeBelow bound left right)
    (le : smaller ≤ bound) : AgreeBelow smaller left right :=
  fun tokens short => agree tokens (Nat.lt_of_lt_of_le short le)

/-- What a parser does before its first token is taken does not weaken the agreement. -/
theorem after {left right : Parse α} (agree : AgreeBelow (bound + 1) left right) :
    AgreeBelow bound left right :=
  agree.anti (Nat.le_succ bound)

theorem bind {left right : Parse α} {next next' : α → Parse β}
    (agree : AgreeBelow bound left right) (online : Online right)
    (agreeNext : ∀ value, AgreeBelow bound (next value) (next' value)) :
    AgreeBelow bound (left >>= next) (right >>= next') := by
  intro tokens short
  rw [bind_apply, bind_apply, agree tokens short]
  cases read : right tokens with
  | error rest => rfl
  | ok pair =>
      have shorter := (online.leaves read).length_le
      exact agreeNext pair.1 pair.2 (Nat.lt_of_le_of_lt shorter short)

/-- After a token was taken, agreement is needed only on lists that are shorter by one. -/
theorem choose {next next' : Token → Option (Parse α)} {other other' : Parse α}
    (taken : ∀ token, Option.Rel (AgreeBelow bound) (next token) (next' token))
    (agree : AgreeBelow (bound + 1) other other') :
    AgreeBelow (bound + 1) (Parse.choose next other) (Parse.choose next' other') := by
  intro tokens short
  cases tokens with
  | nil => exact agree [] short
  | cons first rest =>
      rw [choose_cons, choose_cons]
      have related := taken first.token
      cases left : next first.token <;> cases right : next' first.token <;>
        rw [left, right] at related <;> cases related
      · exact agree _ short
      · rename_i same
        exact same rest (Nat.lt_of_succ_lt_succ short)

theorem bind_take (read : Token → Option α) {next next' : α → Parse β}
    (agree : ∀ value, AgreeBelow bound (next value) (next' value)) :
    AgreeBelow (bound + 1) (take read >>= next) (take read >>= next') := by
  intro tokens short
  rw [bind_apply, bind_apply]
  cases tokens with
  | nil => rfl
  | cons first rest =>
      cases known : read first.token with
      | none => simp [take, choose_cons, known]
      | some value =>
          simp only [take, choose_cons, known, Option.map_some, pure_apply]
          exact agree value rest (Nat.lt_of_succ_lt_succ short)

/-- A phrase that is told by its first token is followed by fewer tokens. -/
theorem bind_choose {first first' : Token → Option (Parse α)} {next next' : α → Parse β}
    (taken : ∀ token, Option.Rel (AgreeBelow bound) (first token) (first' token))
    (online : ∀ token, ∀ parse ∈ first' token, Online parse)
    (agree : ∀ value, AgreeBelow bound (next value) (next' value)) :
    AgreeBelow (bound + 1) (Parse.choose first stuck >>= next)
      (Parse.choose first' stuck >>= next') := by
  intro tokens short
  rw [bind_apply, bind_apply]
  cases tokens with
  | nil => rfl
  | cons placed rest =>
      rw [choose_cons, choose_cons]
      have related := taken placed.token
      have onlineRest := online placed.token
      cases left : first placed.token <;> cases right : first' placed.token <;>
        rw [left, right] at related <;> cases related
      · rfl
      · rename_i same
        have both := bind same (onlineRest _ right) agree rest (Nat.lt_of_succ_lt_succ short)
        rwa [bind_apply, bind_apply] at both

theorem ifNext {token : Token} {present present' absent absent' : Parse α}
    (taken : AgreeBelow bound present present') (agree : AgreeBelow (bound + 1) absent absent') :
    AgreeBelow (bound + 1) (Parse.ifNext token present absent)
      (Parse.ifNext token present' absent') := by
  apply choose _ agree
  intro next
  split
  · exact .some taken
  · exact .none

/-- Where a token was taken before, the alternative may go on with any inner phrase. -/
theorem ifNext_after {token : Token} {present present' absent absent' : Parse α}
    (taken : AgreeBelow bound present present') (agree : AgreeBelow bound absent absent') :
    AgreeBelow bound (Parse.ifNext token present absent)
      (Parse.ifNext token present' absent') := by
  cases bound with
  | zero => exact fun tokens short => absurd short (Nat.not_lt_zero _)
  | succ bound => exact ifNext (taken.anti (Nat.le_succ bound)) agree

theorem afterOperator {kind : Token → Option Operator} {left : Expr}
    {go go' : Operator → Parse Expr}
    (agree : ∀ operator, AgreeBelow bound (go operator) (go' operator)) :
    AgreeBelow (bound + 1) (Parse.afterOperator kind left go)
      (Parse.afterOperator kind left go') := by
  apply choose _ (refl _)
  intro token
  cases kind token with
  | none => exact .none
  | some operator => exact .some (agree operator)

theorem ite {condition : Prop} [Decidable condition] {left left' right right' : Parse α}
    (agree : AgreeBelow bound left left') (agree' : AgreeBelow bound right right') :
    AgreeBelow bound (if condition then left else right)
      (if condition then left' else right') := by
  split
  · exact agree
  · exact agree'

end AgreeBelow

end Parse

/-- Every parser of the family is built from the building blocks. -/
structure Phrases.AllMade (phrases : Phrases) : Prop where
  expression : Parse.Made phrases.expression
  sum : ∀ left, Parse.Made (phrases.sum left)
  product : ∀ left, Parse.Made (phrases.product left)
  factor : Parse.Made phrases.factor
  indices : ∀ container, Parse.Made (phrases.indices container)
  expressions : Parse.Made phrases.expressions
  entries : Parse.Made phrases.entries
  statements : Parse.Made phrases.statements
  otherBranches : Parse.Made phrases.otherBranches
  items : Parse.Made phrases.items
  tasks : Parse.Made phrases.tasks
  runs : Parse.Made phrases.runs

namespace Parse

section Built

variable {inner : Phrases} (made : inner.AllMade)

include made

theorem indices_made (container : Expr) : Made (indices inner container) :=
  .ifNext (.bind made.expression fun _ => .bind (.take _) fun _ => made.indices _) (.pure _)

theorem arguments_made : Made (arguments inner) :=
  .ifNext (.pure _) (.bind made.expressions fun _ => .bind (.take _) fun _ => .pure _)

theorem primaryAfter_made (token : Token) :
    ∀ parse ∈ primaryAfter inner token, Made parse := by
  intro parse known
  unfold primaryAfter at known
  split at known <;> cases known
  · exact .ifNext (.bind (arguments_made made) fun _ => .pure _) (.pure _)
  · exact .pure _
  · exact .pure _
  · exact .pure _
  · exact .pure _
  · exact .ifNext (.pure _) (.bind made.expressions fun _ => .bind (.take _) fun _ => .pure _)
  · exact .ifNext (.pure _) (.bind made.entries fun _ => .bind (.take _) fun _ => .pure _)
  · exact .bind made.expression fun _ => .bind (.take _) fun _ => .pure _

theorem primary_made : Made (primary inner) :=
  .choose (primaryAfter_made made) .stuck

theorem factor_made : Made (factor inner) :=
  .ifNext (.bind made.factor fun _ => .pure _)
    (.bind (primary_made made) fun _ => indices_made made _)

theorem product_made (left : Expr) : Made (product inner left) :=
  .afterOperator fun _ => .bind (factor_made made) fun _ => made.product _

theorem sum_made (left : Expr) : Made (sum inner left) :=
  .afterOperator fun _ => .bind (factor_made made) fun _ =>
    .bind (product_made made _) fun _ => made.sum _

theorem comparison_made (left : Expr) : Made (comparison inner left) :=
  .afterOperator fun _ => .bind (factor_made made) fun _ =>
    .bind (product_made made _) fun _ => .bind (sum_made made _) fun _ => .pure _

theorem operation_made (left : Expr) : Made (operation inner left) :=
  .bind (product_made made left) fun _ => .bind (sum_made made _) fun _ =>
    comparison_made made _

theorem afterGroup_made (group : Expr) : Made (afterGroup inner group) := by
  apply Made.bind (.follows _)
  intro operatorFollows
  cases operatorFollows
  · exact indices_made made group
  · exact operation_made made group

theorem expression_made : Made (expression inner) :=
  .ifNext
    (.bind made.expression fun _ => .bind (.take _) fun _ => afterGroup_made made _)
    (.bind (factor_made made) fun _ => operation_made made _)

theorem expressions_made : Made (expressions inner) :=
  .bind (expression_made made) fun _ =>
    .ifNext (.bind made.expressions fun _ => .pure _) (.pure _)

theorem entries_made : Made (entries inner) :=
  .bind (expression_made made) fun _ => .bind (.take _) fun _ =>
    .bind (expression_made made) fun _ =>
      .ifNext (.bind made.entries fun _ => .pure _) (.pure _)

theorem branch_made : Made (branch inner) :=
  .bind (expression_made made) fun _ => .bind (.take _) fun _ => .bind (.take _) fun _ =>
    .bind made.statements fun _ => .pure _

theorem otherBranches_made : Made (otherBranches inner) :=
  .ifNext
    (.bind (branch_made made) fun _ => .bind made.otherBranches fun _ => .pure _)
    (.ifNext (.bind (.take _) fun _ => .bind made.statements fun _ => .pure _) (.pure _))

theorem loopBody_made : Made (loopBody inner) := by
  apply Made.bind (.take _)
  intro
  apply Made.bind made.statements
  intro body
  cases body with
  | nil => exact .stuck
  | cons first rest => exact .bind (.take _) fun _ => .pure _

omit made in
theorem enumerated_made : Made enumerated :=
  .bind (.take _) fun _ => .bind (.take _) fun _ => .bind (.take _) fun _ => .pure _

theorem loopAfter_made (item : String) (token : Token) :
    ∀ parse ∈ loopAfter inner item token, Made parse := by
  intro parse known
  unfold loopAfter at known
  split at known <;> cases known
  · exact .bind (loopBody_made made) fun _ => .pure _
  · exact .bind (.take _) fun _ => .bind (expression_made made) fun _ =>
      .bind (.take _) fun _ => .bind (loopBody_made made) fun _ => .pure _
  · exact .bind enumerated_made fun _ => .bind (loopBody_made made) fun _ => .pure _

theorem loop_made : Made (loop inner) :=
  .bind (.take _) fun item =>
    .ifNext
      (.bind (.take _) fun _ => .bind (.take _) fun _ => .bind (.take _) fun _ =>
        .bind enumerated_made fun _ => .bind (loopBody_made made) fun _ => .pure _)
      (.bind (.take _) fun _ => .choose (loopAfter_made made item) .stuck)

theorem statementAfter_made (token : Token) :
    ∀ parse ∈ statementAfter inner token, Made parse := by
  intro parse known
  unfold statementAfter at known
  split at known <;> cases known
  · exact .ifNext (.bind (expression_made made) fun _ => .pure _)
      (.bind (.take _) fun _ => .bind (arguments_made made) fun _ => .pure _)
  · exact .bind (expression_made made) fun _ => .pure _
  · exact .bind (.take _) fun _ => .bind (.take _) fun _ => .bind (branch_made made) fun _ =>
      .bind (otherBranches_made made) fun _ => .pure _
  · exact loop_made made

theorem statements_made : Made (statements inner) := by
  apply Made.choose _ (.pure _)
  intro token parse known
  obtain ⟨statement, started, rfl⟩ := Option.map_eq_some_iff.mp known
  exact .bind (statementAfter_made made token statement started) fun _ =>
    .bind made.statements fun _ => .pure _

theorem titled_made (build : String → List Stmt → Item) : Made (titled inner build) :=
  .bind (.take _) fun _ => .bind (.take _) fun _ =>
    .bind (statements_made made) fun _ => .pure _

theorem itemAfter_made (token : Token) :
    ∀ parse ∈ itemAfter inner token, Made parse := by
  intro parse known
  unfold itemAfter at known
  split at known <;> cases known
  · exact titled_made made _
  · exact titled_made made _

theorem items_made : Made (items inner) := by
  apply Made.bind (.choose (itemAfter_made made) .stuck)
  intro first
  apply Made.bind (.follows _)
  intro more
  cases more
  · exact .pure _
  · exact .bind made.items fun _ => .pure _

theorem tasks_made : Made (tasks inner) := by
  apply Made.bind (.take _)
  intro
  apply Made.bind (.take _)
  intro title
  apply Made.bind (.take _)
  intro
  apply Made.bind (items_made made)
  intro found
  apply Made.bind (.follows _)
  intro more
  cases more
  · exact .pure _
  · exact .bind made.tasks fun _ => .pure _

theorem runs_made : Made (runs inner) := by
  apply Made.bind (.take _)
  intro
  apply Made.bind (.take _)
  intro title
  apply Made.bind (.follows _)
  intro more
  cases more
  · exact .pure _
  · exact .bind made.runs fun _ => .pure _

theorem program_made : Made (program inner) :=
  .bind (.take _) fun _ => .bind (.take _) fun _ => .bind (tasks_made made) fun _ =>
    .bind (runs_made made) fun _ => .pure _

end Built

end Parse

namespace Phrases

theorem AllMade.none : Phrases.none.AllMade := by
  constructor <;> intros <;> exact .stuck

theorem AllMade.around {inner : Phrases} (made : inner.AllMade) :
    inner.around.AllMade where
  expression := Parse.expression_made made
  sum := Parse.sum_made made
  product := Parse.product_made made
  factor := Parse.factor_made made
  indices := Parse.indices_made made
  expressions := Parse.expressions_made made
  entries := Parse.entries_made made
  statements := Parse.statements_made made
  otherBranches := Parse.otherBranches_made made
  items := Parse.items_made made
  tasks := Parse.tasks_made made
  runs := Parse.runs_made made

theorem upTo_made (depth : Nat) : (upTo depth).AllMade := by
  induction depth with
  | zero => exact .none
  | succ depth ih => exact ih.around

/-- Two families of parsers agree on all lists of fewer tokens than `bound`. -/
structure AgreeBelow (bound : Nat) (left right : Phrases) : Prop where
  expression : Parse.AgreeBelow bound left.expression right.expression
  sum : ∀ operand, Parse.AgreeBelow bound (left.sum operand) (right.sum operand)
  product : ∀ operand, Parse.AgreeBelow bound (left.product operand) (right.product operand)
  factor : Parse.AgreeBelow bound left.factor right.factor
  indices : ∀ container,
    Parse.AgreeBelow bound (left.indices container) (right.indices container)
  expressions : Parse.AgreeBelow bound left.expressions right.expressions
  entries : Parse.AgreeBelow bound left.entries right.entries
  statements : Parse.AgreeBelow bound left.statements right.statements
  otherBranches : Parse.AgreeBelow bound left.otherBranches right.otherBranches
  items : Parse.AgreeBelow bound left.items right.items
  tasks : Parse.AgreeBelow bound left.tasks right.tasks
  runs : Parse.AgreeBelow bound left.runs right.runs

end Phrases

namespace Parse

section Agreement

variable {bound : Nat} {left right : Phrases}
variable (made : right.AllMade) (agree : left.AgreeBelow bound right)

include made agree

theorem indices_agree (container : Expr) :
    AgreeBelow (bound + 1) (indices left container) (indices right container) :=
  .ifNext
    (.bind agree.expression made.expression.online fun _ => .bind (.refl _) (.take _) fun _ =>
      agree.indices _)
    (.refl _)

theorem arguments_agree : AgreeBelow bound (arguments left) (arguments right) :=
  .ifNext_after (.refl _) (.bind agree.expressions made.expressions.online fun _ => .refl _)

theorem primaryAfter_agree (token : Token) :
    Option.Rel (AgreeBelow bound) (primaryAfter left token) (primaryAfter right token) := by
  unfold primaryAfter
  split
  · exact .some (.ifNext_after
      (.bind (arguments_agree made agree) (arguments_made made).online fun _ => .refl _) (.refl _))
  · exact .some (.refl _)
  · exact .some (.refl _)
  · exact .some (.refl _)
  · exact .some (.refl _)
  · exact .some (.ifNext_after (.refl _)
      (.bind agree.expressions made.expressions.online fun _ => .refl _))
  · exact .some (.ifNext_after (.refl _) (.bind agree.entries made.entries.online fun _ => .refl _))
  · exact .some (.bind agree.expression made.expression.online fun _ => .refl _)
  · exact .none

theorem primary_agree : AgreeBelow (bound + 1) (primary left) (primary right) :=
  .choose (primaryAfter_agree made agree) (.refl _)

theorem factor_agree : AgreeBelow (bound + 1) (factor left) (factor right) :=
  .ifNext (.bind agree.factor made.factor.online fun _ => .refl _)
    (.bind (primary_agree made agree) (primary_made made).online fun _ =>
      indices_agree made agree _)

theorem product_agree (operand : Expr) :
    AgreeBelow (bound + 1) (product left operand) (product right operand) :=
  .afterOperator fun _ => .bind (factor_agree made agree).after (factor_made made).online fun _ =>
    agree.product _

theorem sum_agree (operand : Expr) :
    AgreeBelow (bound + 1) (sum left operand) (sum right operand) :=
  .afterOperator fun _ => .bind (factor_agree made agree).after (factor_made made).online fun _ =>
    .bind (product_agree made agree _).after (product_made made _).online fun _ => agree.sum _

theorem comparison_agree (operand : Expr) :
    AgreeBelow (bound + 1) (comparison left operand) (comparison right operand) :=
  .afterOperator fun _ => .bind (factor_agree made agree).after (factor_made made).online fun _ =>
    .bind (product_agree made agree _).after (product_made made _).online fun _ =>
      .bind (sum_agree made agree _).after (sum_made made _).online fun _ => .refl _

theorem operation_agree (operand : Expr) :
    AgreeBelow (bound + 1) (operation left operand) (operation right operand) :=
  .bind (product_agree made agree operand) (product_made made operand).online fun _ =>
    .bind (sum_agree made agree _) (sum_made made _).online fun _ => comparison_agree made agree _

theorem afterGroup_agree (group : Expr) :
    AgreeBelow (bound + 1) (afterGroup left group) (afterGroup right group) :=
  .bind (.refl _) (.follows _) fun _ =>
    .ite (operation_agree made agree group) (indices_agree made agree group)

theorem expression_agree : AgreeBelow (bound + 1) (expression left) (expression right) :=
  .ifNext
    (.bind agree.expression made.expression.online fun _ => .bind (.refl _) (.take _) fun _ =>
      (afterGroup_agree made agree _).after)
    (.bind (factor_agree made agree) (factor_made made).online fun _ =>
      operation_agree made agree _)

theorem expressions_agree : AgreeBelow (bound + 1) (expressions left) (expressions right) :=
  .bind (expression_agree made agree) (expression_made made).online fun _ =>
    .ifNext (.bind agree.expressions made.expressions.online fun _ => .refl _) (.refl _)

theorem entries_agree : AgreeBelow (bound + 1) (entries left) (entries right) :=
  .bind (expression_agree made agree) (expression_made made).online fun _ =>
    .bind (.refl _) (.take _) fun _ =>
      .bind (expression_agree made agree) (expression_made made).online fun _ =>
        .ifNext (.bind agree.entries made.entries.online fun _ => .refl _) (.refl _)

theorem branch_agree : AgreeBelow (bound + 1) (branch left) (branch right) :=
  .bind (expression_agree made agree) (expression_made made).online fun _ =>
    .bind_take _ fun _ => .bind (.refl _) (.take _) fun _ =>
      .bind agree.statements made.statements.online fun _ => .refl _

theorem otherBranches_agree :
    AgreeBelow (bound + 1) (otherBranches left) (otherBranches right) :=
  .ifNext
    (.bind (branch_agree made agree).after (branch_made made).online fun _ =>
      .bind agree.otherBranches made.otherBranches.online fun _ => .refl _)
    (.ifNext
      (.bind (.refl _) (.take _) fun _ => .bind agree.statements made.statements.online fun _ =>
        .refl _)
      (.refl _))

theorem loopBody_agree : AgreeBelow (bound + 1) (loopBody left) (loopBody right) :=
  .bind_take _ fun _ => .bind agree.statements made.statements.online fun _ => .refl _

theorem loopAfter_agree (item : String) (token : Token) :
    Option.Rel (AgreeBelow bound) (loopAfter left item token) (loopAfter right item token) := by
  unfold loopAfter
  split
  · exact .some (.bind (loopBody_agree made agree).after (loopBody_made made).online fun _ =>
      .refl _)
  · exact .some (.bind (.refl _) (.take _) fun _ =>
      .bind (expression_agree made agree).after (expression_made made).online fun _ =>
        .bind (.refl _) (.take _) fun _ =>
          .bind (loopBody_agree made agree).after (loopBody_made made).online fun _ => .refl _)
  · exact .some (.bind (.refl _) enumerated_made.online fun _ =>
      .bind (loopBody_agree made agree).after (loopBody_made made).online fun _ => .refl _)
  · exact .none

theorem loop_agree : AgreeBelow (bound + 1) (loop left) (loop right) :=
  .bind_take _ fun item =>
    .ifNext_after
      (.bind (.refl _) (.take _) fun _ => .bind (.refl _) (.take _) fun _ =>
        .bind (.refl _) (.take _) fun _ => .bind (.refl _) enumerated_made.online fun _ =>
          .bind (loopBody_agree made agree).after (loopBody_made made).online fun _ => .refl _)
      (.bind (.refl _) (.take _) fun _ =>
        (AgreeBelow.choose (loopAfter_agree made agree item) (.refl _)).after)

theorem statementAfter_agree (token : Token) :
    Option.Rel (AgreeBelow bound) (statementAfter left token) (statementAfter right token) := by
  unfold statementAfter
  split
  · exact .some (.ifNext_after
      (.bind (expression_agree made agree).after (expression_made made).online fun _ => .refl _)
      (.bind (.refl _) (.take _) fun _ =>
        .bind (arguments_agree made agree) (arguments_made made).online fun _ => .refl _))
  · exact .some (.bind (expression_agree made agree).after (expression_made made).online fun _ =>
      .refl _)
  · exact .some (.bind (.refl _) (.take _) fun _ => .bind (.refl _) (.take _) fun _ =>
      .bind (branch_agree made agree).after (branch_made made).online fun _ =>
        .bind (otherBranches_agree made agree).after (otherBranches_made made).online fun _ =>
          .refl _)
  · exact .some (loop_agree made agree).after
  · exact .none

theorem statements_agree : AgreeBelow (bound + 1) (statements left) (statements right) := by
  apply AgreeBelow.choose _ (.refl _)
  intro token
  have madeNext := statementAfter_made made token
  have related := statementAfter_agree made agree token
  generalize statementAfter left token = leftNext at related ⊢
  generalize statementAfter right token = rightNext at madeNext related ⊢
  cases related with
  | none => exact .none
  | some same =>
      exact .some (.bind same (madeNext _ rfl).online fun _ =>
        .bind agree.statements made.statements.online fun _ => .refl _)

theorem titled_agree (build : String → List Stmt → Item) :
    AgreeBelow (bound + 1) (titled left build) (titled right build) :=
  .bind (.refl _) (.take _) fun _ => .bind (.refl _) (.take _) fun _ =>
    .bind (statements_agree made agree) (statements_made made).online fun _ => .refl _

theorem itemAfter_agree (token : Token) :
    Option.Rel (AgreeBelow bound) (itemAfter left token) (itemAfter right token) := by
  unfold itemAfter
  split
  · exact .some (titled_agree made agree _).after
  · exact .some (titled_agree made agree _).after
  · exact .none

theorem items_agree : AgreeBelow (bound + 1) (items left) (items right) :=
  .bind_choose (itemAfter_agree made agree)
    (fun token parse known => (itemAfter_made made token parse known).online) fun _ =>
    .bind (.refl _) (.follows _) fun _ =>
      .ite (.bind agree.items made.items.online fun _ => .refl _) (.refl _)

theorem tasks_agree : AgreeBelow (bound + 1) (tasks left) (tasks right) :=
  .bind_take _ fun _ => .bind (.refl _) (.take _) fun _ => .bind (.refl _) (.take _) fun _ =>
    .bind (items_agree made agree).after (items_made made).online fun _ =>
      .bind (.refl _) (.follows _) fun _ =>
        .ite (.bind agree.tasks made.tasks.online fun _ => .refl _) (.refl _)

theorem runs_agree : AgreeBelow (bound + 1) (runs left) (runs right) :=
  .bind_take _ fun _ => .bind (.refl _) (.take _) fun _ => .bind (.refl _) (.follows _) fun _ =>
    .ite (.bind agree.runs made.runs.online fun _ => .refl _) (.refl _)

theorem program_agree : AgreeBelow (bound + 1) (program left) (program right) :=
  .bind (.refl _) (.take _) fun _ => .bind (.refl _) (.take _) fun _ =>
    .bind (tasks_agree made agree) (tasks_made made).online fun _ =>
      .bind (runs_agree made agree) (runs_made made).online fun _ => .refl _

end Agreement

end Parse

namespace Phrases

/-- One layer of phrases gains one token. -/
theorem AgreeBelow.around {bound : Nat} {left right : Phrases} (made : right.AllMade)
    (agree : left.AgreeBelow bound right) :
    left.around.AgreeBelow (bound + 1) right.around where
  expression := Parse.expression_agree made agree
  sum := Parse.sum_agree made agree
  product := Parse.product_agree made agree
  factor := Parse.factor_agree made agree
  indices := Parse.indices_agree made agree
  expressions := Parse.expressions_agree made agree
  entries := Parse.entries_agree made agree
  statements := Parse.statements_agree made agree
  otherBranches := Parse.otherBranches_agree made agree
  items := Parse.items_agree made agree
  tasks := Parse.tasks_agree made agree
  runs := Parse.runs_agree made agree

/-- No list has fewer than zero tokens. -/
theorem AgreeBelow.zero (left right : Phrases) : left.AgreeBelow 0 right := by
  constructor <;> intros <;> exact fun _ short => absurd short (Nat.not_lt_zero _)

theorem upTo_agree_add (depth extra : Nat) :
    (upTo depth).AgreeBelow depth (upTo (depth + extra)) := by
  induction depth with
  | zero => exact .zero _ _
  | succ depth ih =>
      rw [Nat.add_right_comm]
      exact ih.around (upTo_made (depth + extra))

theorem upTo_agree {depth deeper : Nat} (le : depth ≤ deeper) :
    (upTo depth).AgreeBelow depth (upTo deeper) := by
  obtain ⟨extra, rfl⟩ := Nat.exists_eq_add_of_le le
  exact upTo_agree_add depth extra

/-- The parsers of phrases of any depth: a list of tokens is read to the depth that its length
allows. -/
def whole : Phrases where
  expression tokens := (upTo (tokens.length + 1)).expression tokens
  sum left tokens := (upTo (tokens.length + 1)).sum left tokens
  product left tokens := (upTo (tokens.length + 1)).product left tokens
  factor tokens := (upTo (tokens.length + 1)).factor tokens
  indices container tokens := (upTo (tokens.length + 1)).indices container tokens
  expressions tokens := (upTo (tokens.length + 1)).expressions tokens
  entries tokens := (upTo (tokens.length + 1)).entries tokens
  statements tokens := (upTo (tokens.length + 1)).statements tokens
  otherBranches tokens := (upTo (tokens.length + 1)).otherBranches tokens
  items tokens := (upTo (tokens.length + 1)).items tokens
  tasks tokens := (upTo (tokens.length + 1)).tasks tokens
  runs tokens := (upTo (tokens.length + 1)).runs tokens

theorem whole_agree (depth : Nat) : whole.AgreeBelow depth (upTo depth) := by
  constructor <;> intros <;> intro tokens short
  · exact (upTo_agree short).expression tokens (Nat.lt_succ_self _)
  · exact (upTo_agree short).sum _ tokens (Nat.lt_succ_self _)
  · exact (upTo_agree short).product _ tokens (Nat.lt_succ_self _)
  · exact (upTo_agree short).factor tokens (Nat.lt_succ_self _)
  · exact (upTo_agree short).indices _ tokens (Nat.lt_succ_self _)
  · exact (upTo_agree short).expressions tokens (Nat.lt_succ_self _)
  · exact (upTo_agree short).entries tokens (Nat.lt_succ_self _)
  · exact (upTo_agree short).statements tokens (Nat.lt_succ_self _)
  · exact (upTo_agree short).otherBranches tokens (Nat.lt_succ_self _)
  · exact (upTo_agree short).items tokens (Nat.lt_succ_self _)
  · exact (upTo_agree short).tasks tokens (Nat.lt_succ_self _)
  · exact (upTo_agree short).runs tokens (Nat.lt_succ_self _)

/-- Two families are equal if for every bound they agree with one third family below it. -/
theorem eq_of_agree {left right : Phrases} (third : Nat → Phrases)
    (agreeLeft : ∀ bound, left.AgreeBelow bound (third bound))
    (agreeRight : ∀ bound, right.AgreeBelow bound (third bound)) : left = right := by
  have bounded (tokens : List Placed) : tokens.length < tokens.length + 1 := Nat.lt_succ_self _
  apply Phrases.ext
  · funext tokens
    exact ((agreeLeft _).expression tokens (bounded tokens)).trans
      ((agreeRight _).expression tokens (bounded tokens)).symm
  · funext operand tokens
    exact ((agreeLeft _).sum operand tokens (bounded tokens)).trans
      ((agreeRight _).sum operand tokens (bounded tokens)).symm
  · funext operand tokens
    exact ((agreeLeft _).product operand tokens (bounded tokens)).trans
      ((agreeRight _).product operand tokens (bounded tokens)).symm
  · funext tokens
    exact ((agreeLeft _).factor tokens (bounded tokens)).trans
      ((agreeRight _).factor tokens (bounded tokens)).symm
  · funext container tokens
    exact ((agreeLeft _).indices container tokens (bounded tokens)).trans
      ((agreeRight _).indices container tokens (bounded tokens)).symm
  · funext tokens
    exact ((agreeLeft _).expressions tokens (bounded tokens)).trans
      ((agreeRight _).expressions tokens (bounded tokens)).symm
  · funext tokens
    exact ((agreeLeft _).entries tokens (bounded tokens)).trans
      ((agreeRight _).entries tokens (bounded tokens)).symm
  · funext tokens
    exact ((agreeLeft _).statements tokens (bounded tokens)).trans
      ((agreeRight _).statements tokens (bounded tokens)).symm
  · funext tokens
    exact ((agreeLeft _).otherBranches tokens (bounded tokens)).trans
      ((agreeRight _).otherBranches tokens (bounded tokens)).symm
  · funext tokens
    exact ((agreeLeft _).items tokens (bounded tokens)).trans
      ((agreeRight _).items tokens (bounded tokens)).symm
  · funext tokens
    exact ((agreeLeft _).tasks tokens (bounded tokens)).trans
      ((agreeRight _).tasks tokens (bounded tokens)).symm
  · funext tokens
    exact ((agreeLeft _).runs tokens (bounded tokens)).trans
      ((agreeRight _).runs tokens (bounded tokens)).symm

/-- The parsers of phrases of any depth are what one more layer makes of them. -/
theorem around_whole : whole.around = whole := by
  apply eq_of_agree upTo _ whole_agree
  intro bound
  cases bound with
  | zero => exact .zero _ _
  | succ bound => exact (whole_agree bound).around (upTo_made bound)

@[simp] theorem whole_expression : whole.expression = Parse.expression whole :=
  congrArg Phrases.expression around_whole.symm

@[simp] theorem whole_sum : whole.sum = Parse.sum whole :=
  congrArg Phrases.sum around_whole.symm

@[simp] theorem whole_product : whole.product = Parse.product whole :=
  congrArg Phrases.product around_whole.symm

@[simp] theorem whole_factor : whole.factor = Parse.factor whole :=
  congrArg Phrases.factor around_whole.symm

@[simp] theorem whole_indices : whole.indices = Parse.indices whole :=
  congrArg Phrases.indices around_whole.symm

@[simp] theorem whole_expressions : whole.expressions = Parse.expressions whole :=
  congrArg Phrases.expressions around_whole.symm

@[simp] theorem whole_entries : whole.entries = Parse.entries whole :=
  congrArg Phrases.entries around_whole.symm

@[simp] theorem whole_statements : whole.statements = Parse.statements whole :=
  congrArg Phrases.statements around_whole.symm

@[simp] theorem whole_otherBranches : whole.otherBranches = Parse.otherBranches whole :=
  congrArg Phrases.otherBranches around_whole.symm

@[simp] theorem whole_items : whole.items = Parse.items whole :=
  congrArg Phrases.items around_whole.symm

@[simp] theorem whole_tasks : whole.tasks = Parse.tasks whole :=
  congrArg Phrases.tasks around_whole.symm

@[simp] theorem whole_runs : whole.runs = Parse.runs whole :=
  congrArg Phrases.runs around_whole.symm

end Phrases

/-- The bound on the depth of phrases is never met: tokens are a program exactly if the parser of
programs of any depth reads them all. -/
theorem parseTokens_eq_ok {tokens : List Placed} {program : Program} :
    parseTokens tokens = .ok program ↔
      Parse.program Phrases.whole tokens = .ok (program, []) := by
  have same := Parse.program_agree (Phrases.upTo_made tokens.length)
    (Phrases.whole_agree tokens.length) tokens (Nat.lt_succ_self _)
  rw [parseTokens, same]
  split
  · rename_i found read
    simp [read]
  · rename_i found rest leftOver read
    simp only [read, reduceCtorEq, Except.ok.injEq, Prod.mk.injEq, false_iff, not_and]
    exact fun _ => leftOver
  · rename_i rest read
    simp [read]

end Stepwise
