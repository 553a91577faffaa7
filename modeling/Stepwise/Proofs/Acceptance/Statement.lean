import Stepwise.Proofs.Acceptance.Expression

/-!
# Which statements are accepted

A list of statements takes all the statements that follow, so the parser does not return from the body
of a choice where the grammar ends it: it goes on with the next statements, then with further branches
of the innermost choice that is open, and so on outwards.  `openChoices count` is the parser in that
state, with `count` choices that are open.  Behind any list of statements that strands no operator the
parser is in such a state, whatever the derivation says on where the lists and the choices end.
-/

namespace Stepwise

open Grammar
open Phrases (whole)

namespace Parse

variable {α β : Type}

/-- Reads and keeps nothing. -/
def skip (parse : Parse α) : Parse Unit := do
  let _ ← parse
  return ()

/-- Goes on where `count` choices are open, the innermost one first. -/
def openChoices : (count : Nat) → Parse Unit
  | 0 => skip (statements whole)
  | count + 1 => do
    skip (statements whole)
    skip (otherBranches whole)
    openChoices count

theorem skip_then (parse : Parse α) (next : Parse β) :
    (do
      skip parse
      next) = (do
      let _ ← parse
      next) := by
  rw [skip, bind_assoc]
  rfl

theorem skip_eq_ok {parse : Parse α} {tokens rest : List Placed}
    (read : skip parse tokens = .ok ((), rest)) : ∃ value, parse tokens = .ok (value, rest) := by
  obtain ⟨value, middle, found, same⟩ := bind_eq_ok.mp read
  cases same
  exact ⟨value, found⟩

theorem Jams.skipped {parse : Parse α} {tokens : List Placed} (jams : Jams parse tokens) :
    Jams (skip parse) tokens :=
  jams.map fun _ => ()

/-- What is left behind a list of statements starts no statement. -/
theorem ahead_of_statements {tokens rest : List Placed} {found : List Stmt}
    (read : statements whole tokens = .ok (found, rest)) : Ahead (! startsStatement ·) rest := by
  induction found generalizing tokens with
  | nil =>
      rcases statements_eq_ok read with ⟨other, -, rfl⟩ | ⟨_, _, _, same, _⟩
      · exact other
      · cases same
  | cons first more ih =>
      rcases statements_eq_ok read with ⟨-, same, -⟩ | ⟨_, _, _, same, readMore⟩
      · cases same
      · cases same
        exact ih readMore

/-- Reading all statements twice is reading them once. -/
theorem statements_twice (next : Parse α) :
    (do
      let _ ← statements whole
      let _ ← statements whole
      next) = (do
      let _ ← statements whole
      next) := by
  funext tokens
  rw [bind_apply, bind_apply]
  cases read : statements whole tokens with
  | error stop => rfl
  | ok pair => exact bind_of_ok (statements_left (ahead_of_statements read)) _

theorem openChoices_zero : openChoices 0 = skip (statements whole) := rfl

theorem openChoices_succ (count : Nat) :
    openChoices (count + 1) = (do
      let _ ← statements whole
      let _ ← otherBranches whole
      openChoices count) := by
  rw [openChoices, skip_then]
  congr 1
  funext _
  exact skip_then ..

/-- One more choice is open outside of some, and others outside of it. -/
theorem openChoices_then_branches (inside outside : Nat) :
    (do
      openChoices inside
      let _ ← otherBranches whole
      openChoices outside) = openChoices (inside + outside + 1) := by
  induction inside with
  | zero => rw [openChoices_zero, skip_then, Nat.zero_add, openChoices_succ]
  | succ inside ih =>
      rw [openChoices_succ, Nat.add_right_comm inside 1, openChoices_succ (inside + outside + 1),
        ← ih]
      simp only [bind_assoc]

/-- A list of statements that is ended by nothing goes on in the list around it. -/
theorem openChoices_then (inside outside : Nat) :
    (do
      openChoices inside
      openChoices outside) = openChoices (inside + outside) := by
  induction inside with
  | zero =>
      rw [openChoices_zero, skip_then, Nat.zero_add]
      cases outside with
      | zero => exact statements_twice _
      | succ outside => rw [openChoices_succ, statements_twice]
  | succ inside ih =>
      rw [openChoices_succ, Nat.add_right_comm, openChoices_succ, ← ih]
      simp only [bind_assoc]

theorem openChoices_left {count : Nat} {tokens : List Placed}
    (other : Ahead endsStatements tokens) : openChoices count tokens = .ok ((), tokens) := by
  have noStatement : Ahead (! startsStatement ·) tokens :=
    other.mono fun token passes => by simp_all [endsStatements]
  have noBranch : Ahead endsBranches tokens :=
    other.mono fun token passes => by simp_all [endsStatements]
  induction count with
  | zero => rw [openChoices_zero, skip, bind_of_ok (statements_left noStatement), pure_apply]
  | succ count ih =>
      rw [openChoices_succ, bind_of_ok (statements_left noStatement),
        bind_of_ok (otherBranches_left noBranch), ih]

/-- An operator is left by all that may be open. -/
theorem endsStatements_of_isOperator {token : Token} (known : isOperator token = true) :
    endsStatements token = true := by
  cases token with
  | mark sign => rfl
  | _ => cases known

theorem statements_at_operator {first : Placed} (known : isOperator first.token = true)
    (others : List Placed) :
    statements whole (first :: others) = .ok ([], first :: others) := by
  have ends := endsStatements_of_isOperator known
  exact statements_left (.cons (by simp_all [endsStatements]))

theorem otherBranches_at_operator {first : Placed} (known : isOperator first.token = true)
    (others : List Placed) :
    otherBranches whole (first :: others) = .ok (([], false), first :: others) := by
  have ends := endsStatements_of_isOperator known
  exact otherBranches_left (.cons (by simp_all [endsStatements]))

theorem openChoices_at_operator {first : Placed} (known : isOperator first.token = true)
    (count : Nat) (others : List Placed) :
    openChoices count (first :: others) = .ok ((), first :: others) :=
  openChoices_left (.cons (endsStatements_of_isOperator known))

theorem branches_at_operator {first : Placed} (known : isOperator first.token = true)
    (count : Nat) (others : List Placed) :
    (do
      let _ ← otherBranches whole
      openChoices count) (first :: others) = .ok ((), first :: others) := by
  rw [bind_of_ok (otherBranches_at_operator known others),
    openChoices_at_operator known count others]

theorem Jams.carried {tokens : List Placed} (jams : Jams (statements whole) tokens)
    (count : Nat) : Jams (openChoices count) tokens := by
  cases count with
  | zero => exact jams.skipped
  | succ count =>
      rw [openChoices_succ]
      exact jams.bind fun _ _ others known =>
        jams_of_ok (branches_at_operator known count others) known

theorem Jams.of_skip {parse : Parse α} {tokens : List Placed} (jams : Jams (skip parse) tokens) :
    Jams parse tokens := by
  intro value rest read
  exact jams () rest (bind_of_ok read _)

/-! ## Lists of statements -/

/-- Behind `inside` the parser has some choices open. -/
structure LeavesOpen (parse : Parse α) (inside : List Placed) (strands : Bool) : Prop where
  runs : strands = false → ∃ count, ∀ rest, Ahead endsExpression rest →
    skip parse (inside ++ rest) = openChoices count rest
  jams : strands = true → ∀ rest, Ahead endsExpression rest → Jams parse (inside ++ rest)

/-- What the parser of statements does with a phrase, behind which an expression may end. -/
structure TakesStatements (piece : Piece) : Prop where
  ahead : ∀ rest, Ahead endsExpression rest → Ahead endsExpression (piece.placed ++ rest)
  leaves : LeavesOpen (statements whole) piece.placed piece.strands

theorem TakesStatements.of_starts {piece : Piece} (starts : Starts startsStatement piece.placed)
    (leaves : LeavesOpen (statements whole) piece.placed piece.strands) : TakesStatements piece :=
  ⟨fun rest _ => starts.ahead (fun _ => endsExpression_of_startsStatement) rest, leaves⟩

theorem takes_no_statements : TakesStatements ⟨[], .plain, false⟩ :=
  ⟨fun _ ahead => ahead, ⟨fun _ => ⟨0, fun _ _ => rfl⟩, nofun⟩⟩

theorem openChoices_append {used : List Placed} {more : Nat}
    (runs : ∀ rest, Ahead endsExpression rest →
      skip (statements whole) (used ++ rest) = openChoices more rest) (count : Nat)
    {rest : List Placed} (ahead : Ahead endsExpression rest) :
    openChoices count (used ++ rest) = openChoices (more + count) rest := by
  cases count with
  | zero => exact runs rest ahead
  | succ count =>
      rw [openChoices, bind_congr_apply (runs rest ahead), ← Nat.add_assoc,
        ← openChoices_then_branches]
      simp only [skip_then]

theorem TakesStatements.append {first others : Piece} (takes : TakesStatements first)
    (takesOthers : TakesStatements others) :
    TakesStatements
      ⟨first.placed ++ others.placed, .plain, first.strands || others.strands⟩ := by
  refine ⟨?_, ?_, ?_⟩
  · intro rest ahead
    rw [List.append_assoc]
    exact takes.ahead _ (takesOthers.ahead rest ahead)
  · intro free
    obtain ⟨freeFirst, freeOthers⟩ := Bool.or_eq_false_iff.mp free
    obtain ⟨count, runs⟩ := takes.leaves.runs freeFirst
    obtain ⟨more, runsOthers⟩ := takesOthers.leaves.runs freeOthers
    refine ⟨more + count, ?_⟩
    intro rest ahead
    rw [List.append_assoc, runs _ (takesOthers.ahead rest ahead),
      openChoices_append runsOthers count ahead]
  · intro strands rest ahead
    rw [List.append_assoc]
    cases strandsFirst : first.strands with
    | true => exact takes.leaves.jams strandsFirst _ (takesOthers.ahead rest ahead)
    | false =>
        have strandsOthers : others.strands = true := by simpa [strandsFirst] using strands
        obtain ⟨count, runs⟩ := takes.leaves.runs strandsFirst
        have jams := (takesOthers.leaves.jams strandsOthers rest ahead).carried count
        exact (jams.of_eq (runs _ (takesOthers.ahead rest ahead))).of_skip

/-- A statement that its own parser takes as a whole. -/
theorem leavesOpen_statement {first : Placed} {statement : Parse Stmt} {inside : List Placed}
    {strands : Bool} (known : statementAfter whole first.token = some statement)
    (reads : strands = false → ∀ rest, Ahead endsExpression rest →
      ∃ found, statement (inside ++ rest) = .ok (found, rest))
    (jams : strands = true → ∀ rest, Jams statement (inside ++ rest)) :
    LeavesOpen (statements whole) (first :: inside) strands := by
  constructor
  · intro free
    refine ⟨0, ?_⟩
    intro rest ahead
    obtain ⟨found, read⟩ := reads free rest ahead
    rw [skip, List.cons_append, bind_congr_apply (statements_taken known _), bind_assoc,
      bind_of_ok read, bind_assoc, openChoices_zero, skip]
    rfl
  · intro strands rest _
    rw [List.cons_append]
    apply Jams.of_eq _ (statements_taken known _)
    apply (jams strands rest).bind
    intro found first others known
    have read : (do return found :: (← statements whole)) (first :: others) =
        .ok ([found], first :: others) := by
      rw [bind_of_ok (statements_at_operator known others), pure_apply]
    exact jams_of_ok read known

section

variable {piece : Piece}

theorem TakesExpression.assignment (takes : TakesExpression piece) (word : String)
    (position equals : Nat) :
    LeavesOpen (statements whole)
      (⟨.name word, position⟩ :: ⟨.mark .equals, equals⟩ :: piece.placed) piece.strands := by
  have entered : ∀ rest, (ifNext (.mark .equals) (do return .assign word (← expression whole)) do
      mark .openParen
      return .call word (← arguments whole)) (⟨.mark .equals, equals⟩ :: rest) =
        (do return Stmt.assign word (← expression whole)) rest := fun rest => ifNext_taken ..
  apply leavesOpen_statement rfl
  · intro free rest ahead
    obtain ⟨value, read⟩ := (takes.form free).consumes
    refine ⟨.assign word value, ?_⟩
    rw [List.cons_append, entered, bind_of_ok (read rest ahead), pure_apply]
  · intro strands rest
    exact ((takes.jams strands rest).map _).of_eq (entered _)

theorem TakesExpression.yielded (takes : TakesExpression piece) (position : Nat) :
    LeavesOpen (statements whole) (⟨.keyword .returnWord, position⟩ :: piece.placed)
      piece.strands := by
  apply leavesOpen_statement rfl
  · intro free rest ahead
    obtain ⟨value, read⟩ := (takes.form free).consumes
    exact ⟨.yield value, by rw [bind_of_ok (read rest ahead), pure_apply]⟩
  · intro strands rest
    exact (takes.jams strands rest).map _

theorem TakesCall.statement (takes : TakesCall piece) :
    LeavesOpen (statements whole) piece.placed piece.strands := by
  obtain ⟨word, position, opened, inside, same, reads, fails⟩ := takes.reads
  have entered : ∀ rest, (ifNext (.mark .equals) (do return .assign word (← expression whole)) do
      mark .openParen
      return .call word (← arguments whole)) (⟨.mark .openParen, opened⟩ :: rest) =
        (do return Stmt.call word (← arguments whole)) rest := by
    intro rest
    rw [ifNext_left (.cons rfl), mark_taken]
  rw [same]
  apply leavesOpen_statement rfl
  · intro free rest _
    obtain ⟨found, read⟩ := reads free
    refine ⟨.call word found, ?_⟩
    rw [List.cons_append, entered, bind_of_ok (read rest), pure_apply]
  · intro strands rest
    exact (((fails strands rest).bind _).of_eq (entered _)).jams

end

/-! ## Choices -/

/-- The test and the body of a branch. -/
theorem leavesOpen_branch {test body : Piece} (takesTest : TakesExpression test)
    (takesBody : TakesStatements body) (position colon : Nat) :
    LeavesOpen (branch whole)
      (test.placed ++ ⟨.keyword .thenWord, position⟩ :: ⟨.mark .colon, colon⟩ :: body.placed)
      (test.strands || body.strands) := by
  have entered : test.strands = false → ∃ value, ∀ rest,
      branch whole ((test.placed ++ ⟨.keyword .thenWord, position⟩ :: ⟨.mark .colon, colon⟩ ::
        body.placed) ++ rest) = (do return (value, ← statements whole)) (body.placed ++ rest) := by
    intro free
    obtain ⟨value, read⟩ := (takesTest.form free).consumes
    refine ⟨value, ?_⟩
    intro rest
    rw [List.append_assoc, List.cons_append, List.cons_append, branch_whole,
      bind_of_ok (read _ (.cons rfl)), keyword_taken, mark_taken]
  constructor
  · intro free
    obtain ⟨freeTest, freeBody⟩ := Bool.or_eq_false_iff.mp free
    obtain ⟨value, goesOn⟩ := entered freeTest
    obtain ⟨count, runs⟩ := takesBody.leaves.runs freeBody
    refine ⟨count, ?_⟩
    intro rest ahead
    rw [← runs rest ahead, skip, bind_congr_apply (goesOn rest), bind_assoc, skip]
    rfl
  · intro strands rest ahead
    cases strandsTest : test.strands with
    | true =>
        rw [List.append_assoc, branch_whole]
        exact ((takesTest.jams strandsTest _).bind_fails fun _ _ _ known =>
          keyword_fails known _ _ _).jams
    | false =>
        have strandsBody : body.strands = true := by simpa [strandsTest] using strands
        obtain ⟨value, goesOn⟩ := entered strandsTest
        exact ((takesBody.leaves.jams strandsBody rest ahead).map _).of_eq (goesOn rest)

/-- Goes on with a branch of a choice, behind its first word, with `count` choices open around
it. -/
def choiceWithin (count : Nat) : Parse Unit := do
  skip (branch whole)
  let _ ← otherBranches whole
  openChoices count

/-- What is done with a branch: it leaves its choice open. -/
structure TakesBranch (inside : List Placed) (strands : Bool) : Prop where
  runs : strands = false → ∃ more, ∀ count rest, Ahead endsExpression rest →
    choiceWithin count (inside ++ rest) = openChoices (more + count + 1) rest
  jams : strands = true → ∀ count rest, Ahead endsExpression rest →
    Jams (choiceWithin count) (inside ++ rest)

theorem LeavesOpen.takesBranch {inside : List Placed} {strands : Bool}
    (leaves : LeavesOpen (branch whole) inside strands) : TakesBranch inside strands := by
  constructor
  · intro free
    obtain ⟨more, runs⟩ := leaves.runs free
    refine ⟨more, ?_⟩
    intro count rest ahead
    rw [choiceWithin, bind_congr_apply (runs rest ahead), openChoices_then_branches]
  · intro strands count rest ahead
    exact (leaves.jams strands rest ahead).skipped.bind fun _ _ others known =>
      jams_of_ok (branches_at_operator known count others) known

/-- What is done with branches that stand behind those of an open choice: `change` says how many
choices are open then. -/
structure ChangesChoices (change : Nat → Nat → Nat) (piece : Piece) : Prop where
  ahead : ∀ rest, Ahead endsExpression (piece.placed ++ rest)
  runs : piece.strands = false → ∃ more, ∀ count rest, Ahead endsExpression rest →
    openChoices (count + 1) (piece.placed ++ rest) = openChoices (change more count) rest
  jams : piece.strands = true → ∀ count rest, Ahead endsExpression rest →
    Jams (openChoices (count + 1)) (piece.placed ++ rest)

/-- The choice stays open after a branch with a test. -/
abbrev ExtendsChoice : Piece → Prop :=
  ChangesChoices fun more count => more + count + 1

/-- The choice is closed by the branch without a test. -/
abbrev EndsChoice : Piece → Prop :=
  ChangesChoices fun more count => more + count

theorem openChoices_elif (count position : Nat) (rest : List Placed) :
    openChoices (count + 1) (⟨.keyword .elif, position⟩ :: rest) = choiceWithin count rest := by
  rw [openChoices_succ, bind_of_ok (statements_left (.cons rfl)),
    bind_congr_apply (otherBranches_elif position rest), choiceWithin, skip_then]
  simp only [bind_assoc]
  rfl

theorem openChoices_else (count position colon : Nat) (rest : List Placed) :
    openChoices (count + 1)
        (⟨.keyword .elseWord, position⟩ :: ⟨.mark .colon, colon⟩ :: rest) =
      (do
        skip (statements whole)
        openChoices count) rest := by
  rw [openChoices_succ, bind_of_ok (statements_left (.cons rfl)),
    bind_congr_apply (otherBranches_else position _), skip_then, bind_assoc, mark_taken, bind_assoc]
  rfl

theorem TakesBranch.elif {inside : List Placed} {strands : Bool}
    (takes : TakesBranch inside strands) (position : Nat) :
    ExtendsChoice ⟨⟨.keyword .elif, position⟩ :: inside, .plain, strands⟩ := by
  refine ⟨fun _ => .cons rfl, ?_, ?_⟩
  · intro free
    obtain ⟨more, runs⟩ := takes.runs free
    exact ⟨more, fun count rest ahead =>
      (openChoices_elif count position _).trans (runs count rest ahead)⟩
  · intro strands count rest ahead
    exact (takes.jams strands count rest ahead).of_eq (openChoices_elif count position _)

theorem TakesStatements.elseBranch {piece : Piece} (takes : TakesStatements piece)
    (position colon : Nat) :
    EndsChoice ⟨⟨.keyword .elseWord, position⟩ :: ⟨.mark .colon, colon⟩ :: piece.placed, .plain,
      piece.strands⟩ := by
  refine ⟨fun _ => .cons rfl, ?_, ?_⟩
  · intro free
    obtain ⟨more, runs⟩ := takes.leaves.runs free
    refine ⟨more, ?_⟩
    intro count rest ahead
    rw [List.cons_append, List.cons_append, openChoices_else, bind_congr_apply (runs rest ahead),
      openChoices_then]
  · intro strands count rest ahead
    apply Jams.of_eq _ (openChoices_else count position colon _)
    apply (takes.leaves.jams strands rest ahead).skipped.bind
    intro _ first others known
    exact jams_of_ok (openChoices_at_operator known count others) known

/-- A branch with a test, and what stands behind it. -/
theorem ChangesChoices.after {change : Nat → Nat → Nat} {first others : Piece}
    (extension : ExtendsChoice first) (changes : ChangesChoices change others)
    (carry : ∀ inner more count, change more (inner + count) = change (more + inner) count) :
    ChangesChoices change
      ⟨first.placed ++ others.placed, .plain, first.strands || others.strands⟩ := by
  refine ⟨?_, ?_, ?_⟩
  · intro rest
    rw [List.append_assoc]
    exact extension.ahead _
  · intro free
    obtain ⟨freeFirst, freeOthers⟩ := Bool.or_eq_false_iff.mp free
    obtain ⟨inner, runs⟩ := extension.runs freeFirst
    obtain ⟨more, runsOthers⟩ := changes.runs freeOthers
    refine ⟨more + inner, ?_⟩
    intro count rest ahead
    rw [List.append_assoc, runs count _ (changes.ahead rest), runsOthers _ rest ahead, carry]
  · intro strands count rest ahead
    rw [List.append_assoc]
    cases strandsFirst : first.strands with
    | true => exact extension.jams strandsFirst count _ (changes.ahead rest)
    | false =>
        have strandsOthers : others.strands = true := by simpa [strandsFirst] using strands
        obtain ⟨inner, runs⟩ := extension.runs strandsFirst
        exact (changes.jams strandsOthers _ rest ahead).of_eq (runs count _ (changes.ahead rest))

/-- What is done with all branches of a choice, behind the first word. -/
structure TakesChoice (inside : List Placed) (strands : Bool) : Prop where
  runs : strands = false → ∃ count, ∀ rest, Ahead endsExpression rest →
    choiceWithin 0 (inside ++ rest) = openChoices count rest
  jams : strands = true → ∀ rest, Ahead endsExpression rest →
    Jams (choiceWithin 0) (inside ++ rest)

theorem TakesBranch.alone {inside : List Placed} {strands : Bool}
    (takes : TakesBranch inside strands) : TakesChoice inside strands := by
  refine ⟨?_, fun strands rest ahead => takes.jams strands 0 rest ahead⟩
  intro free
  obtain ⟨more, runs⟩ := takes.runs free
  exact ⟨_, fun rest ahead => runs 0 rest ahead⟩

theorem TakesBranch.before {inside : List Placed} {strands : Bool} {others : Piece}
    {change : Nat → Nat → Nat} (takes : TakesBranch inside strands)
    (changes : ChangesChoices change others) :
    TakesChoice (inside ++ others.placed) (strands || others.strands) := by
  constructor
  · intro free
    obtain ⟨freeFirst, freeOthers⟩ := Bool.or_eq_false_iff.mp free
    obtain ⟨inner, runs⟩ := takes.runs freeFirst
    obtain ⟨more, runsOthers⟩ := changes.runs freeOthers
    refine ⟨change more inner, ?_⟩
    intro rest ahead
    rw [List.append_assoc, runs 0 _ (changes.ahead rest), runsOthers _ rest ahead]
  · intro strandsAll rest ahead
    rw [List.append_assoc]
    cases strandsFirst : strands with
    | true => exact takes.jams strandsFirst 0 _ (changes.ahead rest)
    | false =>
        have strandsOthers : others.strands = true := by simpa [strandsFirst] using strandsAll
        obtain ⟨inner, runs⟩ := takes.runs strandsFirst
        exact (changes.jams strandsOthers _ rest ahead).of_eq (runs 0 _ (changes.ahead rest))

theorem TakesChoice.decided {inside : List Placed} {strands : Bool}
    (takes : TakesChoice inside strands) (position colon first : Nat) :
    LeavesOpen (statements whole)
      (⟨.keyword .decide, position⟩ :: ⟨.mark .colon, colon⟩ :: ⟨.keyword .ifWord, first⟩ :: inside)
      strands := by
  have entered : ∀ rest, skip (statements whole) (⟨.keyword .decide, position⟩ ::
      ⟨.mark .colon, colon⟩ :: ⟨.keyword .ifWord, first⟩ :: rest) = choiceWithin 0 rest := by
    intro rest
    rw [skip, bind_congr_apply (statements_taken rfl _), bind_assoc, bind_assoc, mark_taken,
      bind_assoc, keyword_taken, choiceWithin, skip_then, openChoices_zero, skip]
    simp only [bind_assoc, pure_bind]
  constructor
  · intro free
    obtain ⟨count, runs⟩ := takes.runs free
    exact ⟨count, fun rest ahead => (entered _).trans (runs rest ahead)⟩
  · intro strands rest ahead
    exact ((takes.jams strands rest ahead).of_eq (entered _)).of_skip

/-! ## Loops -/

section

variable {body : Piece} (takes : TakesStatements body) (colon : Nat)

include takes

/-- The body of a loop is read up to its closing word. -/
theorem loopBody_closed (starts : Starts startsStatement body.placed) (free : body.strands = false)
    (ends : Nat) (rest : List Placed) :
    ∃ found, loopBody whole
      (⟨.mark .colon, colon⟩ :: (body.placed ++ ⟨.keyword .endWord, ends⟩ :: rest)) =
        .ok (found, rest) := by
  obtain ⟨count, runs⟩ := takes.leaves.runs free
  have read := runs (⟨.keyword .endWord, ends⟩ :: rest) (.cons rfl)
  rw [openChoices_left (.cons rfl)] at read
  obtain ⟨found, read⟩ := skip_eq_ok read
  rcases statements_eq_ok read with ⟨other, -, -⟩ | ⟨first, more, middle, rfl, -⟩
  · -- The body starts with a statement, so it is not empty.
    obtain ⟨first, others, same, known⟩ := starts
    rw [same] at other
    have none := other.head
    simp [known] at none
  · refine ⟨first :: more, ?_⟩
    rw [loopBody_whole, bind_of_ok read, closeBody, keyword_taken, pure_apply]

theorem loopBody_fails (strands : body.strands = true) {rest : List Placed}
    (ahead : Ahead endsExpression rest) :
    Fails (loopBody whole) (⟨.mark .colon, colon⟩ :: (body.placed ++ rest)) := by
  apply Fails.of_eq _ (loopBody_whole colon _)
  apply (takes.leaves.jams strands rest ahead).bind_fails
  intro found first others known
  cases found with
  | nil => exact ⟨_, rfl⟩
  | cons => exact keyword_fails known _ _ _

end

/-- What a loop with one variable runs through: its parser goes on with the body. -/
structure TakesSource (piece : Piece) : Prop where
  reads : piece.strands = false → ∀ item, ∃ build : List Stmt → Stmt, ∀ rest,
    choose (loopAfter whole item) stuck (piece.placed ++ rest) =
      (do return build (← loopBody whole)) rest
  fails : piece.strands = true → ∀ item rest,
    Fails (choose (loopAfter whole item) stuck) (piece.placed ++ rest)

theorem takesSource_name (word : String) (position : Nat) :
    TakesSource (leaf ⟨.name word, position⟩) :=
  ⟨fun _ _ => ⟨_, fun _ => rfl⟩, nofun⟩

theorem takesSource_enumerated (word : String) (first opened position closed : Nat) :
    TakesSource ⟨[⟨.keyword .enumerate, first⟩, ⟨.mark .openParen, opened⟩,
      ⟨.name word, position⟩, ⟨.mark .closeParen, closed⟩], .plain, false⟩ :=
  ⟨fun _ item => ⟨fun body => .forEach item (.enumerated word) body,
    fun _ => enumerated_taken word _ opened position closed _⟩, nofun⟩

theorem TakesExpression.range {piece : Piece} (takes : TakesExpression piece)
    (first opened closed : Nat) :
    TakesSource ⟨⟨.keyword .range, first⟩ :: ⟨.mark .openParen, opened⟩ ::
      (piece.placed ++ [⟨.mark .closeParen, closed⟩]), .plain, piece.strands⟩ := by
  have entered : ∀ item rest, choose (loopAfter whole item) stuck
      (⟨.keyword .range, first⟩ :: ⟨.mark .openParen, opened⟩ :: rest) =
        (do
          let bound ← expression whole
          mark .closeParen
          return Stmt.forRange item bound (← loopBody whole)) rest := fun _ _ => rfl
  constructor
  · intro free item
    obtain ⟨bound, read⟩ := bracket_taken (takes.form free).consumes
      (show endsExpression (.mark .closeParen) = true from rfl)
    refine ⟨fun body => .forRange item bound body, ?_⟩
    intro rest
    simp only [List.cons_append, List.append_assoc, List.nil_append]
    rw [entered, read]
  · intro strands item rest
    simp only [List.cons_append, List.append_assoc, List.nil_append]
    exact (bracket_fails (takes.jams strands) rfl _ _).of_eq (entered item _)

/-- A loop with one variable. -/
theorem TakesSource.loop {source body : Piece} (takes : TakesSource source)
    (takesBody : TakesStatements body) (starts : Starts startsStatement body.placed)
    (item : String) (first position word colon ends : Nat) :
    LeavesOpen (statements whole)
      (⟨.keyword .forWord, first⟩ :: ⟨.name item, position⟩ :: ⟨.keyword .inWord, word⟩ ::
        (source.placed ++ ⟨.mark .colon, colon⟩ :: (body.placed ++ [⟨.keyword .endWord, ends⟩])))
      (source.strands || body.strands) := by
  have entered : ∀ rest, Parse.loop whole (⟨.name item, position⟩ :: ⟨.keyword .inWord, word⟩ ::
      rest) = choose (loopAfter whole item) stuck rest := by
    intro rest
    rw [Parse.loop, name_taken, ifNext_left (.cons rfl), keyword_taken]
  apply leavesOpen_statement rfl
  · intro free rest _
    obtain ⟨freeSource, freeBody⟩ := Bool.or_eq_false_iff.mp free
    obtain ⟨build, goesOn⟩ := takes.reads freeSource item
    obtain ⟨found, read⟩ := loopBody_closed takesBody colon starts freeBody ends rest
    refine ⟨build found, ?_⟩
    simp only [List.cons_append, List.append_assoc, List.nil_append]
    rw [entered, goesOn, bind_of_ok read, pure_apply]
  · intro strands rest
    simp only [List.cons_append, List.append_assoc, List.nil_append]
    apply Fails.jams
    apply Fails.of_eq _ (entered _)
    cases strandsSource : source.strands with
    | true => exact takes.fails strandsSource item _
    | false =>
        have strandsBody : body.strands = true := by simpa [strandsSource] using strands
        obtain ⟨build, goesOn⟩ := takes.reads strandsSource item
        exact ((loopBody_fails takesBody colon strandsBody (.cons rfl)).bind _).of_eq (goesOn _)

/-- A loop with two variables. -/
theorem TakesStatements.enumeration {body : Piece} (takes : TakesStatements body)
    (starts : Starts startsStatement body.placed) (index element collection : String)
    (first second comma third fourth fifth opened sixth closed colon ends : Nat) :
    LeavesOpen (statements whole)
      (⟨.keyword .forWord, first⟩ :: ⟨.name index, second⟩ :: ⟨.mark .comma, comma⟩ ::
        ⟨.name element, third⟩ :: ⟨.keyword .inWord, fourth⟩ :: ⟨.keyword .enumerate, fifth⟩ ::
        ⟨.mark .openParen, opened⟩ :: ⟨.name collection, sixth⟩ :: ⟨.mark .closeParen, closed⟩ ::
        ⟨.mark .colon, colon⟩ :: (body.placed ++ [⟨.keyword .endWord, ends⟩])) body.strands := by
  have entered : ∀ rest, Parse.loop whole (⟨.name index, second⟩ :: ⟨.mark .comma, comma⟩ ::
      ⟨.name element, third⟩ :: ⟨.keyword .inWord, fourth⟩ :: ⟨.keyword .enumerate, fifth⟩ ::
      ⟨.mark .openParen, opened⟩ :: ⟨.name collection, sixth⟩ :: ⟨.mark .closeParen, closed⟩ ::
      rest) = (do return Stmt.forEnumerated index element collection (← loopBody whole)) rest := by
    intro rest
    rw [Parse.loop, name_taken, ifNext_taken, name_taken, keyword_taken, keyword_taken,
      enumerated_taken]
  apply leavesOpen_statement rfl
  · intro free rest _
    obtain ⟨found, read⟩ := loopBody_closed takes colon starts free ends rest
    refine ⟨.forEnumerated index element collection found, ?_⟩
    simp only [List.cons_append, List.append_assoc, List.nil_append]
    rw [entered, bind_of_ok read, pure_apply]
  · intro strands rest
    simp only [List.cons_append, List.append_assoc, List.nil_append]
    exact (((loopBody_fails takes colon strands (.cons rfl)).bind _).of_eq (entered _)).jams

end Parse

end Stepwise
