import Stepwise.Proofs.Printing.Expression

/-!
# Printed statements are read back

A list of statements goes on as long as a statement follows, and a choice without an `else` goes on
with every alternative that follows.  What may stand behind a printed list of statements depends
therefore on whether the list ends with such a choice, and nothing else that is printed is open at its
end.
-/

namespace Stepwise

open Phrases (whole)

namespace Parse

/-- A token behind a list of statements: it goes on with no statement, and with no alternative of a
choice that is open at the end of the list. -/
def endsList (openEnd : Bool) (token : Token) : Bool :=
  endsExpression token && !startsStatement token && (!openEnd || endsBranches token)

theorem endsList_iff {openEnd : Bool} {token : Token} :
    endsList openEnd token = true ↔ endsExpression token = true ∧ startsStatement token = false ∧
      (openEnd = true → endsBranches token = true) := by
  cases openEnd <;> simp [endsList, and_assoc]

/-- A token that ends a list that is open at its end ends every list. -/
theorem endsList_of_open {openEnd : Bool} {token : Token} (ends : endsList true token = true) :
    endsList openEnd token = true := by
  obtain ⟨expression, statement, branches⟩ := endsList_iff.mp ends
  exact endsList_iff.mpr ⟨expression, statement, fun _ => branches rfl⟩

theorem statements_ended {openEnd : Bool} {rest : List Placed} (ahead : Ahead (endsList openEnd) rest) :
    statements whole rest = .ok ([], rest) := by
  apply statements_left
  apply ahead.mono
  intro token ends
  rw [(endsList_iff.mp ends).2.1]
  rfl

/-- A token behind a statement. -/
def endsStatement : Stmt → Token → Bool
  | .decide _ _ _ hasElse => endsList !hasElse
  | _ => endsExpression

/-- The statement is read back from its tokens, of which the first one decides how it goes on. -/
def StatementBack (statement : Stmt) : Prop :=
  ∃ first more parse, statement.tokens = first :: more ∧
    statementAfter whole first = some parse ∧
    Yields parse more (endsStatement statement) statement

theorem StatementBack.begins {statement : Stmt} (back : StatementBack statement) :
    Begins startsStatement statement.tokens := by
  obtain ⟨first, more, parse, same, known, _⟩ := back
  refine ⟨first, more, same, ?_⟩
  rw [← statementAfter_isSome whole, known]
  rfl

/-- The statements are read back as a list. -/
structure StatementsBack (list : List Stmt) : Prop where
  begins : list ≠ [] → Begins startsStatement (Stmt.allTokens list)
  yields : Yields (statements whole) (Stmt.allTokens list) (endsList (Stmt.endsOpen list)) list

/-! ## Lists of statements -/

theorem statementsBack_nil : StatementsBack [] := by
  constructor
  · exact fun some => absurd rfl some
  · rw [Stmt.allTokens]
    apply (GoesOn.nil _ _).settle fun _ ends => ends
    intro rest ahead
    exact statements_ended ahead

theorem statementsBack_cons {statement : Stmt} {rest : List Stmt}
    (back : StatementBack statement) (last : statement.isDecide = true → rest = [])
    (backRest : StatementsBack rest) : StatementsBack (statement :: rest) := by
  refine ⟨fun _ => by rw [Stmt.allTokens]; exact back.begins.append _, ?_⟩
  obtain ⟨first, more, parse, same, known, yields⟩ := back
  rw [Stmt.allTokens, same, List.cons_append]
  apply GoesOn.cons fun _ _ => statements_taken known _
  -- A choice is the last statement; behind every other one the next statement may follow.
  cases rest with
  | nil =>
      rw [Stmt.allTokens, List.append_nil]
      have implied : ∀ token, endsList (Stmt.endsOpen [statement]) token = true →
          endsStatement statement token = true := by
        intro token ends
        cases statement with
        | decide => exact ends
        | _ => exact (endsList_iff.mp ends).1
      apply (yields.bind _).settle implied
      intro rest ahead
      rw [bind_of_ok (statements_ended ahead), pure_apply]
  | cons second others =>
      obtain ⟨token, following, sameRest, starts⟩ := backRest.begins (by simp)
      have plain : endsStatement statement = endsExpression := by
        cases statement with
        | decide => cases last rfl
        | _ => rfl
      have lastOpen : Stmt.endsOpen (statement :: second :: others) =
          Stmt.endsOpen (second :: others) := by
        rw [Stmt.endsOpen, List.getLast?_cons_cons, Stmt.endsOpen]
      have yieldsRest := backRest.yields.map fun list => statement :: list
      rw [sameRest] at yieldsRest ⊢
      rw [plain] at yields
      rw [lastOpen]
      exact yields.followed (endsExpression_of_startsStatement starts) yieldsRest

/-! ## Single statements -/

theorem statementBack_assign (target : String) {value : Expr} (back : ReadBack value) :
    StatementBack (.assign target value) := by
  refine ⟨.name target, .mark .equals :: value.tokens, _, by rw [Stmt.tokens], rfl, ?_⟩
  exact .cons (fun _ _ => ifNext_taken ..) (back.yields_tokens.map _)

theorem statementBack_call (function : String) {arguments : List Expr}
    (back : ∀ argument ∈ arguments, ReadBack argument) :
    StatementBack (.call function arguments) := by
  refine ⟨.name function, _, _, by rw [Stmt.tokens, Expr.body], rfl, ?_⟩
  have yields := (yields_arguments back).map fun found => Stmt.call function found
  apply GoesOn.cons _ (yields.mono fun _ _ => rfl)
  intro position rest
  rw [ifNext_left (.cons rfl), mark_taken]

theorem statementBack_yield {value : Expr} (back : ReadBack value) :
    StatementBack (.yield value) := by
  refine ⟨.keyword .returnWord, value.tokens, _, by rw [Stmt.tokens], rfl, ?_⟩
  exact back.yields_tokens.map _

/-! ## Choices -/

theorem yields_branch {test : Expr} {body : List Stmt} (back : ReadBack test)
    (backBody : StatementsBack body) :
    Yields (branch whole) (Stmt.branchTokens test (Stmt.allTokens body))
      (endsList (Stmt.endsOpen body)) (test, body) := by
  rw [branch_whole]
  have inside : Yields (do
        keyword .thenWord
        mark .colon
        return (test, ← statements whole))
      (.keyword .thenWord :: .mark .colon :: Stmt.allTokens body)
      (endsList (Stmt.endsOpen body)) (test, body) :=
    .cons (fun _ _ => keyword_taken ..) (.cons (fun _ _ => mark_taken ..) (backBody.yields.map _))
  exact back.yields_tokens.followed rfl inside

/-- What stands behind a branch: further branches with a test, and an `else`. -/
theorem begins_others {others : List (Expr × List Stmt)} {hasElse : Bool} {first : Token}
    {more : List Token}
    (same : Stmt.otherTokens others ++ Stmt.elseTokens hasElse = first :: more) :
    (first = .keyword .elif ∨ first = .keyword .elseWord) ∧ (others ≠ [] ∨ hasElse = true) := by
  cases others with
  | nil =>
      cases hasElse with
      | false => cases same
      | true =>
          cases same
          exact ⟨.inr rfl, .inr rfl⟩
  | cons branch rest =>
      rw [Stmt.otherTokens] at same
      cases same
      exact ⟨.inl rfl, .inl (by simp)⟩

theorem others_eq_nil {others : List (Expr × List Stmt)} {hasElse : Bool}
    (same : Stmt.otherTokens others ++ Stmt.elseTokens hasElse = []) : hasElse = false := by
  cases hasElse with
  | false => rfl
  | true => simp [Stmt.elseTokens] at same

/-- A branch is read up to the branches behind it. -/
theorem goesOn_branch {α : Type} {test : Expr} {body : List Stmt}
    {others : List (Expr × List Stmt)} {hasElse : Bool} (back : ReadBack test)
    (backBody : StatementsBack body)
    (closed : others ≠ [] ∨ hasElse = true → Stmt.endsOpen body = false)
    {after : Expr × List Stmt → Parse α} {value : α}
    (yields : Yields (after (test, body)) (Stmt.otherTokens others ++ Stmt.elseTokens hasElse)
      (endsList !hasElse) value) :
    Yields (branch whole >>= after) (Stmt.branchTokens test (Stmt.allTokens body) ++
      (Stmt.otherTokens others ++ Stmt.elseTokens hasElse)) (endsList !hasElse) value := by
  apply ((yields_branch back backBody).bind after).join yields
  · intro empty token ends
    rw [others_eq_nil empty] at ends
    exact endsList_of_open ends
  · intro token more same
    obtain ⟨isBranch, some⟩ := begins_others same
    rw [closed some]
    rcases isBranch with rfl | rfl <;> rfl

theorem yields_others_nil (hasElse : Bool) :
    Yields (otherBranches whole) (Stmt.elseTokens hasElse) (endsList !hasElse) ([], hasElse) := by
  cases hasElse with
  | false =>
      apply (GoesOn.nil _ _).settle fun _ ends => ends
      intro rest ahead
      exact otherBranches_left (ahead.mono fun token ends => (endsList_iff.mp ends).2.2 rfl)
  | true =>
      apply GoesOn.cons otherBranches_else
      apply GoesOn.cons fun _ _ => mark_taken ..
      apply (GoesOn.nil _ _).settle fun _ ends => ends
      intro rest ahead
      rw [bind_of_ok (statements_ended ahead), pure_apply]

theorem yields_others_cons {test : Expr} {body : List Stmt} {others : List (Expr × List Stmt)}
    {hasElse : Bool} (back : ReadBack test) (backBody : StatementsBack body)
    (closed : others ≠ [] ∨ hasElse = true → Stmt.endsOpen body = false)
    (yields : Yields (otherBranches whole) (Stmt.otherTokens others ++ Stmt.elseTokens hasElse)
      (endsList !hasElse) (others, hasElse)) :
    Yields (otherBranches whole) (Stmt.otherTokens ((test, body) :: others) ++
      Stmt.elseTokens hasElse) (endsList !hasElse) ((test, body) :: others, hasElse) := by
  rw [Stmt.otherTokens, List.cons_append, List.append_assoc]
  apply GoesOn.cons otherBranches_elif
  exact goesOn_branch back backBody closed (yields.bind _)

theorem statementBack_decide {test : Expr} {body : List Stmt} {others : List (Expr × List Stmt)}
    {hasElse : Bool} (back : ReadBack test) (backBody : StatementsBack body)
    (closed : others ≠ [] ∨ hasElse = true → Stmt.endsOpen body = false)
    (yields : Yields (otherBranches whole) (Stmt.otherTokens others ++ Stmt.elseTokens hasElse)
      (endsList !hasElse) (others, hasElse)) :
    StatementBack (.decide test body others hasElse) := by
  refine ⟨.keyword .decide, _, _, by rw [Stmt.tokens], rfl, ?_⟩
  apply GoesOn.cons fun _ _ => mark_taken ..
  apply GoesOn.cons fun _ _ => keyword_taken ..
  exact goesOn_branch back backBody closed (yields.bind _)

/-! ## Loops -/

theorem yields_loopBody {body : List Stmt} (some : body ≠ []) (back : StatementsBack body) :
    Yields (loopBody whole) (Stmt.loopTokens (Stmt.allTokens body)) anyToken body := by
  have closed : Yields (closeBody body) [.keyword .endWord] anyToken body := by
    cases body with
    | nil => exact absurd rfl some
    | cons first more => exact .cons (fun _ _ => keyword_taken ..) (.nil _ _)
  apply GoesOn.cons loopBody_whole
  refine back.yields.followed ?_ closed
  cases Stmt.endsOpen body <;> rfl

theorem goesOn_enumerated {α : Type} (word : String) (next : String → Parse α) :
    GoesOn (enumerated >>= next) [.mark .openParen, .name word, .mark .closeParen] anyToken
      (next word) := by
  simp only [enumerated, bind_assoc, pure_bind]
  apply GoesOn.cons fun _ _ => mark_taken ..
  apply GoesOn.cons fun _ _ => name_taken ..
  exact .cons (fun _ _ => mark_taken ..) (.nil _ _)

/-- A loop with one variable, up to what it runs through. -/
theorem statementBack_loop {statement : Stmt} {item : String} {inside : List Token}
    (same : statement.tokens =
      .keyword .forWord :: .name item :: .keyword .inWord :: inside)
    (ends : endsStatement statement = endsExpression)
    (yields : Yields (choose (loopAfter whole item) stuck) inside anyToken statement) :
    StatementBack statement := by
  refine ⟨_, _, _, same, rfl, ?_⟩
  rw [ends]
  apply GoesOn.cons fun _ _ => name_taken ..
  apply GoesOn.cons _ (yields.mono fun _ _ => rfl)
  intro position rest
  rw [ifNext_left (.cons rfl), keyword_taken]

section

variable {body : List Stmt} (some : body ≠ []) (back : StatementsBack body) (item : String)

include some back

theorem statementBack_forEach (source : LoopSource) :
    StatementBack (.forEach item source body) := by
  have inside := (yields_loopBody some back).map fun body => Stmt.forEach item source body
  apply statementBack_loop (by rw [Stmt.tokens]) rfl
  cases source with
  | name word => exact .cons (fun _ _ => choose_some rfl _ _) inside
  | enumerated word =>
      apply GoesOn.cons fun _ _ => choose_some rfl _ _
      exact (goesOn_enumerated word _).append rfl inside

theorem statementBack_forRange {bound : Expr} (backBound : ReadBack bound) :
    StatementBack (.forRange item bound body) := by
  have inside := (yields_loopBody some back).map fun body => Stmt.forRange item bound body
  have closed : Yields (do
        mark .closeParen
        return Stmt.forRange item bound (← loopBody whole))
      (.mark .closeParen :: Stmt.loopTokens (Stmt.allTokens body)) anyToken
      (.forRange item bound body) := .cons (fun _ _ => mark_taken ..) inside
  apply statementBack_loop (by rw [Stmt.tokens]) rfl
  apply GoesOn.cons fun _ _ => choose_some rfl _ _
  apply GoesOn.cons fun _ _ => mark_taken ..
  exact backBound.yields_tokens.followed rfl closed

theorem statementBack_forEnumerated (element collection : String) :
    StatementBack (.forEnumerated item element collection body) := by
  have inside := (yields_loopBody some back).map fun body =>
    Stmt.forEnumerated item element collection body
  have named := (goesOn_enumerated collection fun collection => do
    return Stmt.forEnumerated item element collection (← loopBody whole)).append rfl inside
  refine ⟨.keyword .forWord, _, _, by rw [Stmt.tokens], rfl, ?_⟩
  apply GoesOn.cons fun _ _ => name_taken ..
  apply GoesOn.cons fun _ _ => ifNext_taken ..
  apply GoesOn.cons fun _ _ => name_taken ..
  apply GoesOn.cons fun _ _ => keyword_taken ..
  exact .cons (fun _ _ => keyword_taken ..) (named.mono fun _ _ => rfl)

end

end Parse

namespace Stmt

open Parse

mutual

/-- Every statement that can be printed is read back. -/
theorem back : (statement : Stmt) → statement.Printable → StatementBack statement
  | .assign target value, printable => by
    rw [Printable] at printable
    exact statementBack_assign target (value.readBack printable.2)
  | .call function arguments, printable => by
    rw [Printable, Expr.Printable] at printable
    exact statementBack_call function (Expr.readBackItems arguments printable.2)
  | .yield value, printable => by
    rw [Printable] at printable
    exact statementBack_yield (value.readBack printable)
  | .decide test body others hasElse, printable => by
    rw [Printable] at printable
    obtain ⟨⟨printableTest, printableBody, closed⟩, printableOthers⟩ := printable
    exact statementBack_decide (test.readBack printableTest) (allBack body printableBody) closed
      (othersBack others hasElse printableOthers)
  | .forEach item source body, printable => by
    rw [Printable] at printable
    exact statementBack_forEach printable.2.2.1 (allBack body printable.2.2.2) item source
  | .forRange item bound body, printable => by
    rw [Printable] at printable
    exact statementBack_forRange printable.2.2.1 (allBack body printable.2.2.2) item
      (bound.readBack printable.2.1)
  | .forEnumerated index element collection body, printable => by
    rw [Printable] at printable
    exact statementBack_forEnumerated printable.2.2.2.1 (allBack body printable.2.2.2.2) index element
      collection

theorem allBack : (list : List Stmt) → AllPrintable list → StatementsBack list
  | [], _ => statementsBack_nil
  | statement :: rest, printable => by
    rw [AllPrintable] at printable
    exact statementsBack_cons (back statement printable.1.1) printable.1.2 (allBack rest printable.2)

theorem othersBack : (others : List (Expr × List Stmt)) → (hasElse : Bool) →
    OthersPrintable hasElse others →
    Yields (otherBranches whole) (otherTokens others ++ elseTokens hasElse) (endsList !hasElse)
      (others, hasElse)
  | [], hasElse, _ => by
    rw [otherTokens, List.nil_append]
    exact yields_others_nil hasElse
  | (test, body) :: rest, hasElse, printable => by
    rw [OthersPrintable] at printable
    obtain ⟨⟨printableTest, printableBody, closed⟩, printableRest⟩ := printable
    exact yields_others_cons (test.readBack printableTest) (allBack body printableBody) closed
      (othersBack rest hasElse printableRest)

end

end Stmt

end Stepwise
