import Stepwise.Proofs.Acceptance.Statement

/-!
# Which tasks are accepted

The outer levels of a program: steps and subtasks, tasks, and the tasks to run.  Each of these levels is
a list whose elements start with words of their own, so its parser looks at the next token to see
whether one more element follows.
-/

namespace Stepwise

open Grammar
open Phrases (whole)

namespace Parse

variable {α : Type}

/-- What a parser does with a phrase of the outer levels of a program. -/
structure Accepts (parse : Parse α) (starts stops : Token → Bool) (piece : Piece) : Prop where
  starts : Starts starts piece.placed
  reads : piece.strands = false → ∀ rest, Ahead stops rest →
    ∃ value, parse (piece.placed ++ rest) = .ok (value, rest)
  jams : piece.strands = true → ∀ rest, Ahead stops rest → Jams parse (piece.placed ++ rest)

/-! ## Repeated phrases -/

section

variable {element : Parse α} {list : Parse (List α)} {test stops : Token → Bool}
  {piece others : Piece}

/-- At an operator a list ends. -/
theorem repeated_jams (unlike : ∀ token, isOperator token = true → test token = false)
    {tokens : List Placed} (jams : Jams element tokens) :
    Jams (repeated element test list) tokens := by
  apply jams.bind
  intro value first others known
  have read : (do if ← follows test then return value :: (← list) else return [value])
      (first :: others) = .ok ([value], first :: others) := by
    rw [follows_apply, unlike _ known, if_neg Bool.false_ne_true, pure_apply]
  exact jams_of_ok read known

theorem Accepts.single (unfolds : list = repeated element test list)
    (unlike : ∀ token, isOperator token = true → test token = false)
    (accepts : Accepts element test stops piece) :
    Accepts list test (fun token => stops token && !test token) piece := by
  rw [unfolds]
  refine ⟨accepts.starts, ?_, ?_⟩
  · intro free rest ahead
    have stopped : Ahead stops rest := ahead.mono fun _ passes => by simp_all
    have ended : Ahead (! test ·) rest := ahead.mono fun _ passes => by simp_all
    obtain ⟨value, read⟩ := accepts.reads free rest stopped
    exact ⟨[value], by rw [repeated, bind_of_ok read, follows_left _ ended]; rfl⟩
  · intro strands rest ahead
    have stopped : Ahead stops rest := ahead.mono fun _ passes => by simp_all
    exact repeated_jams unlike (accepts.jams strands rest stopped)

theorem Accepts.cons (unfolds : list = repeated element test list)
    (unlike : ∀ token, isOperator token = true → test token = false)
    (stopped : ∀ token, test token = true → stops token = true)
    (accepts : Accepts element test stops piece)
    (acceptsOthers : Accepts list test (fun token => stops token && !test token) others) :
    Accepts list test (fun token => stops token && !test token)
      ⟨piece.placed ++ others.placed, .plain, piece.strands || others.strands⟩ := by
  refine ⟨accepts.starts.append _, ?_, ?_⟩
  all_goals
    intro strands rest ahead
    rw [List.append_assoc]
    have stoppedFirst : Ahead stops (others.placed ++ rest) :=
      acceptsOthers.starts.ahead stopped rest
  · obtain ⟨freeFirst, freeOthers⟩ := Bool.or_eq_false_iff.mp strands
    obtain ⟨value, read⟩ := accepts.reads freeFirst _ stoppedFirst
    obtain ⟨values, readOthers⟩ := acceptsOthers.reads freeOthers rest ahead
    obtain ⟨first, more, same, passes⟩ := acceptsOthers.starts
    refine ⟨value :: values, ?_⟩
    rw [congrFun unfolds, repeated, bind_of_ok read, same, List.cons_append, follows_apply, passes,
      if_pos rfl, ← List.cons_append, ← same, bind_of_ok readOthers, pure_apply]
  · cases strandsFirst : piece.strands with
    | true =>
        rw [unfolds]
        exact repeated_jams unlike (accepts.jams strandsFirst _ stoppedFirst)
    | false =>
        have strandsOthers : others.strands = true := by simpa [strandsFirst] using strands
        obtain ⟨value, read⟩ := accepts.reads strandsFirst _ stoppedFirst
        obtain ⟨first, more, same, passes⟩ := acceptsOthers.starts
        apply ((acceptsOthers.jams strandsOthers rest ahead).map fun items => value :: items).of_eq
        rw [congrFun unfolds, repeated, bind_of_ok read, same, List.cons_append, follows_apply,
          passes, if_pos rfl, ← List.cons_append]

end

/-! ## Steps, tasks and runs -/

section

variable {body : Piece} {content : String}

/-- The body of a step or subtask. -/
theorem TakesStatements.titled (takes : TakesStatements body)
    {first : Placed} {build : String → List Stmt → Item}
    (known : itemAfter whole first.token = some (titled whole build))
    (starts : startsItem first.token = true) (position colon : Nat) :
    Accepts (choose (itemAfter whole) stuck) startsItem endsBody
      ⟨first :: ⟨.text content, position⟩ :: ⟨.mark .colon, colon⟩ :: body.placed, .plain,
        body.strands⟩ := by
  have entered : ∀ rest, choose (itemAfter whole) stuck
      (first :: ⟨.text content, position⟩ :: ⟨.mark .colon, colon⟩ :: rest) =
        (do return build content (← statements whole)) rest := by
    intro rest
    rw [choose_some known, Parse.titled, text_taken, mark_taken]
  refine ⟨⟨_, _, rfl, starts⟩, ?_, ?_⟩
  all_goals
    intro strands rest ahead
    have ended : Ahead endsExpression rest := ahead.mono fun _ passes => by simp_all [endsBody]
    have ends : Ahead endsStatements rest := ahead.mono fun _ passes => by simp_all [endsBody]
  · obtain ⟨count, runs⟩ := takes.leaves.runs strands
    have read := runs rest ended
    rw [openChoices_left ends] at read
    obtain ⟨found, read⟩ := skip_eq_ok read
    exact ⟨build content found, (entered _).trans (bind_of_ok read _)⟩
  · exact ((takes.leaves.jams strands rest ended).map _).of_eq (entered _)

/-- A token at which the parts of a task end. -/
def endsItems (token : Token) : Bool :=
  endsBody token && !startsItem token

/-- A token at which the tasks end. -/
def endsTasks (token : Token) : Bool :=
  endsItems token && !(token = .keyword .task)

theorem Accepts.task {items : Piece}
    (accepts : Accepts (Parse.items whole) startsItem endsItems items)
    (first position colon : Nat) :
    Accepts Parse.task (· = .keyword .task) endsItems
      ⟨⟨.keyword .task, first⟩ :: ⟨.text content, position⟩ :: ⟨.mark .colon, colon⟩ ::
        items.placed, .plain, items.strands⟩ := by
  have entered : ∀ rest, Parse.task (⟨.keyword .task, first⟩ :: ⟨.text content, position⟩ ::
      ⟨.mark .colon, colon⟩ :: rest) =
        (do return (⟨content, ← Parse.items whole⟩ : Task)) rest := by
    intro rest
    rw [Parse.task, keyword_taken, text_taken, mark_taken]
  refine ⟨⟨_, _, rfl, rfl⟩, ?_, ?_⟩
  · intro free rest ahead
    obtain ⟨found, read⟩ := accepts.reads free rest ahead
    exact ⟨⟨content, found⟩, (entered _).trans (bind_of_ok read _)⟩
  · intro strands rest ahead
    exact ((accepts.jams strands rest ahead).map _).of_eq (entered _)

theorem accepts_run (first position : Nat) :
    Accepts runTitle (· = .keyword .run) (fun _ => true)
      ⟨[⟨.keyword .run, first⟩, ⟨.text content, position⟩], .plain, false⟩ :=
  ⟨⟨_, _, rfl, rfl⟩, fun _ _ _ => ⟨content, rfl⟩, nofun⟩

end

/-- What the parser of programs does with a phrase that is a program: it reads it or fails. -/
structure AcceptsProgram (piece : Piece) : Prop where
  reads : piece.strands = false → ∃ found, program whole piece.placed = .ok (found, [])
  fails : piece.strands = true → Fails (program whole) piece.placed

theorem accepts_program {tasks runs : Piece} {content : String} (first position : Nat)
    (acceptsTasks : Accepts (Parse.tasks whole) (· = .keyword .task) endsTasks tasks)
    (acceptsRuns : Accepts (Parse.runs whole) (· = .keyword .run)
      (fun token => !(token = .keyword .run)) runs) (free : runs.strands = false) :
    AcceptsProgram ⟨⟨.keyword .objective, first⟩ :: ⟨.text content, position⟩ ::
      (tasks.placed ++ runs.placed), .plain, tasks.strands⟩ := by
  have entered : ∀ rest, program whole
      (⟨.keyword .objective, first⟩ :: ⟨.text content, position⟩ :: rest) =
        (do
          let allTasks ← Parse.tasks whole
          let allRuns ← Parse.runs whole
          return (⟨content, allTasks, allRuns⟩ : Program)) rest := by
    intro rest
    rw [program, keyword_taken, text_taken]
  have ahead : Ahead endsTasks runs.placed := by
    rw [← List.append_nil runs.placed]
    apply acceptsRuns.starts.ahead
    intro token passes
    obtain rfl : token = .keyword .run := by simpa using passes
    rfl
  constructor
  · intro freeTasks
    obtain ⟨foundTasks, read⟩ := acceptsTasks.reads freeTasks runs.placed ahead
    obtain ⟨foundRuns, readRuns⟩ := acceptsRuns.reads free [] .nil
    rw [List.append_nil] at readRuns
    refine ⟨⟨content, foundTasks, foundRuns⟩, ?_⟩
    rw [entered, bind_of_ok read, bind_of_ok readRuns, pure_apply]
  · intro strands
    apply Fails.of_eq _ (entered _)
    apply (acceptsTasks.jams strands runs.placed ahead).bind_fails
    intro foundTasks first others known
    apply Fails.bind
    rw [runs_whole]
    exact (keyword_fails known _ _ _).bind _

end Parse

end Stepwise
