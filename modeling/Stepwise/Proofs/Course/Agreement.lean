import Stepwise.Proofs.Course.Exec
import Stepwise.Proofs.Settings.Independence

/-!
# Courses agree with runs

A course ends as the run that it is the course of, on the same machine.  For terms and tasks that is so
result by result.  The result of an action is a value, and `ended` says what it means for the course: a
value that is tagged as a return is a return of its entry `value`, and any other lets the course go on.

The rules below follow the ways in which courses are put together.  The two that matter are
`Follows.andThen` and `Follows.cleanup`: a look at the result of a run, with an early exit, is what
leaving a course by a return amounts to.
-/

namespace Stepwise

open Run (lift fault fail note indentBy explainedIndentBy)

/-- What the result of an action means: a return, or nothing. -/
def ended (result : Value) : Except Exit Unit :=
  if Run.endsBody result then .error (.returned (result.part "value")) else .ok ()

theorem ended_returned (value : Value) :
    ended (Run.returned value) = .error (.returned (.ok value)) := by
  simp [ended, Run.returned, Run.endsBody, Value.hasTag, Value.entry?, Value.record, Value.part,
    Table.fetch?, Value.same]

namespace Course

variable {α β γ : Type}

/-- How a course ends on a machine, without what it records. -/
def ending (course : Course α) (before : Recorded) : Except Exit α × Machine :=
  ((course.outcome before).1, (course.outcome before).2.machine)

/-- What the outcome of a run means for its course, given what results mean. -/
def decoded (meaning : β → Except Exit α) : Except Stop β × Machine → Except Exit α × Machine
  | (.ok value, after) => (meaning value, after)
  | (.error stop, after) => (.error (.stopped stop), after)

theorem decoded_snd (meaning : β → Except Exit α) (outcome : Except Stop β × Machine) :
    (decoded meaning outcome).2 = outcome.2 := by
  rcases outcome with ⟨_ | _, after⟩ <;> rfl

/-- The course ends as the run does, whatever was recorded before. -/
def Follows (meaning : β → Except Exit α) (course : Course α) (run : Run β) : Prop :=
  ∀ before, course.ending before = decoded meaning (run.outcome before.machine)

/-- A run that a course follows stops where the course does, and otherwise the course has what the
result means. -/
theorem Follows.cases {meaning : β → Except Exit α} {course : Course α} {run : Run β}
    (follows : Follows meaning course run) (before : Recorded) :
    (∃ stop after, run.outcome before.machine = (.error stop, after.machine) ∧
      course.outcome before = (.error (.stopped stop), after)) ∨
    (∃ value after, run.outcome before.machine = (.ok value, after.machine) ∧
      course.outcome before = (meaning value, after)) := by
  have same := follows before
  rw [ending] at same
  revert same
  rcases course.outcome before with ⟨result, after⟩
  rcases run.outcome before.machine with ⟨stop | value, machine⟩
  · rintro ⟨⟩
    exact .inl ⟨stop, after, rfl, rfl⟩
  · rintro ⟨⟩
    exact .inr ⟨value, after, rfl, rfl⟩

/-! ## Rules -/

section Rules

variable {meaning : β → Except Exit α}

theorem follows_step (run : Run α) : Follows .ok (step run) run := by
  intro before
  rw [ending, outcome_step]
  rcases run.outcome before.machine with ⟨_ | _, after⟩ <;> rfl

theorem follows_pure (value : α) : Follows .ok (pure value) (pure value) :=
  fun _ => rfl

theorem follows_done : Follows ended (pure ()) (pure .null) :=
  fun _ => rfl

theorem follows_throw (stop : Stop) : Follows meaning (step (throw stop)) (throw stop) :=
  fun _ => rfl

theorem follows_get_throw (stop : Machine → Stop) :
    Follows meaning (step (get >>= fun machine => throw (stop machine)))
      (get >>= fun machine => throw (stop machine)) :=
  fun _ => rfl

theorem Follows.bind {course : Course γ} {run : Run γ} {next : γ → Course α} {runNext : γ → Run β}
    (follows : Follows .ok course run)
    (followsNext : ∀ value, Follows meaning (next value) (runNext value)) :
    Follows meaning (course >>= next) (run >>= runNext) := by
  intro before
  rw [ending, outcome_bind, Run.outcome_bind]
  rcases follows.cases before with ⟨stop, after, ran, left⟩ | ⟨value, after, ran, went⟩
  · simp only [ran, left, decoded]
  · simp only [ran, went]
    exact followsNext value after

/-- Looking at the value of a run is no step of its own. -/
theorem Follows.read {course : Course β} {run : Run β} {look : β → Course α}
    (follows : Follows .ok course run)
    (reads : ∀ value before, (look value).outcome before = (meaning value, before)) :
    Follows meaning (course >>= look) run := by
  rw [← bind_pure run]
  refine follows.bind fun value before => ?_
  rw [ending, reads]
  rfl

theorem follows_ite {condition : Prop} [Decidable condition] {course other : Course α}
    {run otherRun : Run β} (follows : Follows meaning course run)
    (followsOther : Follows meaning other otherRun) :
    Follows meaning (if condition then course else other)
      (if condition then run else otherRun) := by
  split
  · exact follows
  · exact followsOther

end Rules

section Actions

variable {course rest : Course Unit} {run runRest : Run Value}

/-- An action stops, returns or lets its course go on. -/
theorem Follows.cases_ended (follows : Follows ended course run) (before : Recorded) :
    (∃ stop after, run.outcome before.machine = (.error stop, after.machine) ∧
      course.outcome before = (.error (.stopped stop), after)) ∨
    (∃ result after, run.outcome before.machine = (.ok result, after.machine) ∧
      Run.endsBody result = true ∧
        course.outcome before = (.error (.returned (result.part "value")), after)) ∨
    (∃ result after, run.outcome before.machine = (.ok result, after.machine) ∧
      Run.endsBody result = false ∧ course.outcome before = (.ok (), after)) := by
  rcases follows.cases before with stopped | ⟨result, after, ran, went⟩
  · exact .inl stopped
  · refine .inr ?_
    rw [ended] at went
    cases ends : Run.endsBody result with
    | true => exact .inl ⟨result, after, ran, ends, by simpa [ends] using went⟩
    | false => exact .inr ⟨result, after, ran, ends, by simpa [ends] using went⟩

/-- A step with no result of its own, as the last step of an action. -/
theorem follows_last (last : Run Unit) :
    Follows ended (step last) (last >>= fun _ => pure .null) := by
  rw [← bind_pure (step last)]
  exact (follows_step last).bind fun _ => follows_done

/-- A return with something that ends the body, in the run. -/
theorem follows_leave {result : Value} (ends : Run.endsBody result = true) :
    Follows ended (leave (result.part "value")) (pure result) := by
  intro before
  have leaves : ended result = .error (.returned (result.part "value")) := by simp [ended, ends]
  change _ = (ended result, before.machine)
  rw [leaves]
  rfl

/-- One action after another: the course goes on where the run looks at the result. -/
theorem Follows.andThen (follows : Follows ended course run)
    (followsRest : Follows ended rest runRest) :
    Follows ended (course >>= fun _ => rest)
      (run >>= fun result => if Run.endsBody result then pure result else runRest) := by
  intro before
  rw [ending, outcome_bind, Run.outcome_bind]
  rcases follows.cases_ended before with ⟨stop, after, ran, left⟩ |
    ⟨result, after, ran, ends, left⟩ | ⟨result, after, ran, ends, went⟩
  · simp only [ran, left, decoded]
  · simp only [ran, left, ends, if_true]
    exact follows_leave ends after
  · simp only [ran, went, ends]
    exact followsRest after

/-- What is done on the way out of a return is done where the run finds that the result is one. -/
theorem Follows.cleanup (follows : Follows ended course run)
    (followsRest : Follows ended rest runRest) (cleanup : Run Unit) :
    Follows ended (afterReturn course (step cleanup) >>= fun _ => rest)
      (run >>= fun result =>
        if Run.endsBody result then cleanup >>= fun _ => pure result else runRest) := by
  intro before
  rw [ending, outcome_bind, outcome_afterReturn, Run.outcome_bind]
  rcases follows.cases_ended before with ⟨stop, after, ran, left⟩ |
    ⟨result, after, ran, ends, left⟩ | ⟨result, after, ran, ends, went⟩
  · simp only [ran, left, decoded]
  · simp only [ran, left, ends, if_true]
    rw [outcome_bind, Run.outcome_bind]
    rcases (follows_step cleanup).cases after with ⟨stop, last, cleaned, left⟩ |
      ⟨_, last, cleaned, went⟩
    · simp only [cleaned, left, decoded]
    · simp only [cleaned, went]
      exact follows_leave ends last
  · simp only [ran, went, ends]
    exact followsRest after

end Actions

/-! ## Terms -/

section Terms

variable {call : Value → Course Value} {runCall : Value → Run Value}

theorem follows_callSubtask (follows : ∀ name, Follows .ok (call name) (runCall name))
    (function : Value) :
    Follows .ok (callSubtask call function) (Run.callSubtask runCall function) := by
  refine (follows_step _).bind fun key => (follows_step get).bind fun machine => ?_
  refine follows_ite (follows key) ?_
  cases function with
  | str name =>
      refine (follows_step get).bind fun machine => follows_ite (follows _) ?_
      exact (follows_step get).bind fun machine => follows_throw _
  | _ => exact follows_throw _

theorem follows_callFunction (follows : ∀ name, Follows .ok (call name) (runCall name))
    (function : Value) (arguments : List Value) :
    Follows .ok (callFunction call function arguments)
      (Run.callFunction runCall function arguments) := by
  cases function with
  | str name =>
      rw [callFunction, Run.callFunction]
      cases Run.builtin? name with
      | some run => exact follows_step _
      | none => exact follows_callSubtask follows _
  | _ => exact follows_callSubtask follows _

mutual

theorem follows_eval (follows : ∀ name, Follows .ok (call name) (runCall name)) (term : Term) :
    Follows .ok (eval call term) (Run.eval runCall term) := by
  cases term with
  | const value => exact follows_pure value
  | var name => exact follows_step _
  | fault cause => exact follows_throw _
  | after first last =>
      exact (follows_eval follows first).bind fun _ => follows_eval follows last
  | list items => exact (follows_evalItems follows items).bind fun _ => follows_pure _
  | dict entries => exact (follows_evalEntries follows entries []).bind fun _ => follows_pure _
  | index container key =>
      refine (follows_eval follows container).bind fun container => ?_
      exact (follows_eval follows key).bind fun key => follows_step _
  | negate operand => exact (follows_eval follows operand).bind fun _ => follows_step _
  | binary operator left right =>
      refine (follows_eval follows left).bind fun left => ?_
      exact (follows_eval follows right).bind fun right => follows_step _
  | call function arguments =>
      refine (follows_evalAll follows arguments).bind fun arguments => ?_
      exact follows_callFunction follows function arguments

theorem follows_evalAll (follows : ∀ name, Follows .ok (call name) (runCall name))
    (terms : List Term) : Follows .ok (evalAll call terms) (Run.evalAll runCall terms) := by
  cases terms with
  | nil => exact follows_pure _
  | cons term rest =>
      refine (follows_eval follows term).bind fun value => ?_
      exact (follows_evalAll follows rest).bind fun _ => follows_pure _

theorem follows_evalItems (follows : ∀ name, Follows .ok (call name) (runCall name))
    (terms : List Term) : Follows .ok (evalItems call terms) (Run.evalItems runCall terms) := by
  cases terms with
  | nil => exact follows_pure _
  | cons term rest =>
      refine (follows_eval follows term).bind fun value => (follows_step _).bind fun item => ?_
      exact (follows_evalItems follows rest).bind fun _ => follows_pure _

theorem follows_evalEntries (follows : ∀ name, Follows .ok (call name) (runCall name))
    (entries : List (Term × Term)) (stored : Table Value) :
    Follows .ok (evalEntries call entries stored) (Run.evalEntries runCall entries stored) := by
  rcases entries with _ | ⟨⟨key, value⟩, rest⟩
  · exact follows_pure _
  · refine (follows_eval follows key).bind fun key => ?_
    refine (follows_eval follows value).bind fun value => ?_
    refine (follows_step _).bind fun key => (follows_step _).bind fun value => ?_
    exact (follows_step _).bind fun key => follows_evalEntries follows rest _

end

theorem follows_evalTest (follows : ∀ name, Follows .ok (call name) (runCall name)) (test : Test) :
    Follows .ok (evalTest call test) (Run.evalTest runCall test) := by
  cases test with
  | operation left right operator =>
      refine (follows_eval follows left).bind fun left => ?_
      refine (follows_eval follows right).bind fun right => ?_
      refine (follows_step _).bind fun operator => (follows_step _).bind fun _ => ?_
      refine (follows_eval follows _).bind fun left => ?_
      refine (follows_eval follows _).bind fun right => ?_
      refine (follows_step _).bind fun value => (follows_step _).bind fun _ => ?_
      exact follows_pure value
  | plain term node =>
      refine (follows_eval follows term).bind fun value => ?_
      refine (follows_step _).bind fun _ => (follows_step _).bind fun _ => ?_
      exact follows_pure value

end Terms

/-! ## Loops and branches -/

section Loops

variable {body : Nat → Value → Course Unit} {runBody : Nat → Value → Run Value}
  (follows : ∀ number item, Follows ended (body number item) (runBody number item))

include follows

theorem follows_forItems (items : List Value) (number : Nat) :
    Follows ended (forItems body items number) (Run.forItems runBody items number) := by
  induction items generalizing number with
  | nil => exact follows_done
  | cons item items ih => exact (follows number item).andThen (ih (number + 1))

theorem follows_forSpan (gap : Int) (count : Nat) (start : Int) (number : Nat) :
    Follows ended (forSpan body gap count start number)
      (Run.forSpan runBody gap count start number) := by
  induction count generalizing start number with
  | zero => exact follows_done
  | succ count ih => exact (follows number (.int start)).andThen (ih (start + gap) (number + 1))

theorem follows_forCursor (cursor count number : Nat) :
    Follows ended (forCursor body cursor count number)
      (Run.forCursor runBody cursor count number) := by
  induction count generalizing number with
  | zero => exact follows_done
  | succ count ih =>
      refine (follows_step (Run.takeCursor? cursor)).bind fun taken => ?_
      cases taken with
      | none => exact follows_done
      | some item => exact (follows number item).andThen (ih (number + 1))

theorem follows_forSupply (supply : Supply) :
    Follows ended (forSupply supply body) (Run.forSupply supply runBody) := by
  rcases supply with (items | ⟨start, gap, count⟩) | number
  · exact follows_forItems follows items 0
  · exact follows_forSpan follows gap count start 0
  · exact (follows_step get).bind fun machine => follows_forCursor follows number _ 0

end Loops

theorem follows_assignTo (target : Except Fault Value) (value : Value) :
    Follows ended (assignTo target value) (Run.assignTo target value) := by
  refine (follows_step _).bind fun value => (follows_step _).bind fun target => ?_
  refine (follows_step (Run.assign target value)).bind fun _ => ?_
  refine (follows_step _).bind fun shown => (follows_step _).bind fun name => ?_
  exact follows_last _

section Bodies

variable {body : Course Unit} {runBody : Run Value}

theorem follows_closing {iterations : Course Unit} {runIterations : Run Value}
    (follows : Follows ended iterations runIterations) (complete : Run Unit) :
    Follows ended (closing complete iterations)
      (runIterations >>= fun result => Run.closeLoop result complete) :=
  follows.cleanup ((follows_step complete).bind fun _ => follows_last _) (explainedIndentBy (-1))

theorem follows_loopDirect (follows : Follows ended body runBody) (item node : Value)
    (supply : Supply) :
    Follows ended (loopDirect item node supply body)
      (Run.loopDirect item node supply runBody) := by
  refine (follows_step _).bind fun _ => follows_closing (follows_forSupply (fun _ value => ?_) _) _
  exact (follows_step _).bind fun _ => (follows_step _).bind fun _ => follows

theorem follows_loopEnumerated (follows : Follows ended body runBody) (index element node : Value)
    (supply : Supply) :
    Follows ended (loopEnumerated index element node supply body)
      (Run.loopEnumerated index element node supply runBody) := by
  refine (follows_step _).bind fun _ =>
    follows_closing (follows_forSupply (fun number value => ?_) _) _
  refine (follows_step _).bind fun _ => (follows_step _).bind fun _ => ?_
  exact (follows_step _).bind fun _ => follows

theorem follows_loopOver (follows : Follows ended body runBody) (item : Value)
    (source : LoopFeed) :
    Follows ended (loopOver item source body) (Run.loopOver item source runBody) := by
  cases source with
  | direct name =>
      refine (follows_step (Run.valueNamed? name)).bind fun found => ?_
      cases found with
      | none => exact follows_get_throw _
      | some value =>
          dsimp only
          cases value.supply? with
          | none => exact follows_throw _
          | some supply => exact follows_loopDirect follows item name supply
  | enumerated name element node =>
      refine (follows_step (Run.valueNamed? name)).bind fun found => ?_
      cases found with
      | none => exact follows_throw _
      | some value =>
          refine (follows_step _).bind fun supply => (follows_step _).bind fun element => ?_
          exact follows_loopEnumerated follows item element node supply

theorem follows_loopBelow (follows : Follows ended body runBody) (item bound : Value) :
    Follows ended (loopBelow item bound body) (Run.loopBelow item bound runBody) := by
  refine (follows_step _).bind fun stop => (follows_step _).bind fun _ => ?_
  refine follows_closing (follows_forSupply (fun number value => ?_) _) _
  exact (follows_step _).bind fun _ => (follows_step _).bind fun _ => follows

theorem follows_loopNumbered (follows : Follows ended body runBody)
    (index element : Except Fault Value) (name : Value) :
    Follows ended (loopNumbered index element name body)
      (Run.loopNumbered index element name runBody) := by
  refine (follows_step (Run.valueNamed? name)).bind fun found => ?_
  cases found with
  | none => exact follows_throw _
  | some value =>
      dsimp only
      cases value.supply? with
      | none => exact (follows_step _).bind fun _ => follows_throw _
      | some supply =>
          refine (follows_step _).bind fun _ =>
            follows_closing (follows_forSupply (fun number item => ?_) _) _
          refine (follows_step _).bind fun index => (follows_step _).bind fun _ => ?_
          refine (follows_step _).bind fun element => (follows_step _).bind fun _ => ?_
          exact (follows_step _).bind fun _ => follows

theorem follows_takeBranch (follows : Follows ended body runBody) (message : String) :
    Follows ended (takeBranch message body) (Run.takeBranch message runBody) := by
  refine (follows_step _).bind fun _ => (follows_step _).bind fun _ => ?_
  -- The end of the branch is on record only: no step of the run corresponds to it.
  refine follows.cleanup (fun before => ?_) (explainedIndentBy (-2))
  exact follows_last (explainedIndentBy (-1)) ⟨before.machine, .branchEnd :: before.incidents⟩

end Bodies

/-! ## Actions -/

section Calls

variable {call : Value → Course Value} {runCall : Value → Run Value}

mutual

theorem follows_exec (follows : ∀ name, Follows .ok (call name) (runCall name)) (action : Action) :
    Follows ended (exec call action) (Run.exec runCall action) := by
  cases action with
  | skip => exact follows_done
  | fault cause => exact follows_throw _
  | assign target value =>
      exact (follows_eval follows value).bind fun value => follows_assignTo target value
  | call term =>
      refine (follows_eval follows term).read fun value before => ?_
      rw [ended, Run.endsBody]
      split <;> rfl
  | yield value =>
      refine (follows_eval follows value).bind fun value before => ?_
      exact Prod.ext (ended_returned value).symm rfl
  | decide branches =>
      exact (follows_step _).bind fun _ => follows_execBranches follows branches
  | forEach item source body =>
      exact follows_loopOver (follows_execBody follows body) item source
  | forRange item bound body =>
      exact (follows_eval follows bound).bind fun bound =>
        follows_loopBelow (follows_execBody follows body) item bound
  | forEnumerated index element collection body =>
      exact follows_loopNumbered (follows_execBody follows body) index element collection

theorem follows_execBody (follows : ∀ name, Follows .ok (call name) (runCall name))
    (actions : List Action) :
    Follows ended (execBody call actions) (Run.execBody runCall actions) := by
  cases actions with
  | nil => exact follows_done
  | cons action rest =>
      exact (follows_exec follows action).andThen (follows_execBody follows rest)

theorem follows_execBranches (follows : ∀ name, Follows .ok (call name) (runCall name))
    (branches : List Branch) :
    Follows ended (execBranches call branches) (Run.execBranches runCall branches) := by
  cases branches with
  | nil => exact follows_last _
  | cons branch rest =>
      cases branch with
      | fault cause => exact follows_throw _
      | test isFirst test body =>
          refine (follows_evalTest follows test).bind fun value => ?_
          exact follows_ite (follows_takeBranch (follows_execBody follows body) _)
            (follows_execBranches follows rest)
      | otherwise body => exact follows_takeBranch (follows_execBody follows body) _

end

/-- In a step a return leaves one action, and the run drops its result. -/
theorem Follows.contained {course rest : Course Unit} {run : Run Value} {runRest : Run Unit}
    (follows : Follows ended course run) (followsRest : Follows .ok rest runRest) :
    Follows .ok (contained course >>= fun _ => rest) (run >>= fun _ => runRest) := by
  intro before
  rw [ending, outcome_bind, outcome_contained, Run.outcome_bind]
  rcases follows.cases_ended before with ⟨stop, after, ran, left⟩ | ⟨result, after, ran, _, left⟩ |
    ⟨result, after, ran, _, went⟩
  · simp only [ran, left, decoded]
  · simp only [ran, left]
    exact followsRest after
  · simp only [ran, went]
    exact followsRest after

theorem follows_execAll (follows : ∀ name, Follows .ok (call name) (runCall name))
    (actions : List Action) : Follows .ok (execAll call actions) (Run.execAll runCall actions) := by
  induction actions with
  | nil => exact follows_pure _
  | cons action rest ih => exact (follows_exec follows action).contained ih

/-! ## Subtasks, tasks and programs -/

theorem follows_runSubtaskBody (follows : ∀ name, Follows .ok (call name) (runCall name))
    (body : List Action) :
    Follows .ok (runSubtaskBody call body) (Run.runSubtaskBody runCall body) := by
  intro before
  rw [ending, runSubtaskBody, outcome_handedBack, outcome_bind, outcome_afterReturn,
    Run.runSubtaskBody, Run.outcome_bind]
  rcases (follows_execBody follows body).cases_ended before with ⟨stop, after, ran, left⟩ |
    ⟨result, after, ran, ends, left⟩ | ⟨result, after, ran, ends, went⟩
  · simp only [ran, left, decoded]
  · -- The run takes the indentation back in one place; the course does so on each way out.
    simp only [ran, left, ends, Run.outcome_bind, Run.outcome_indentBy, outcome_bind,
      outcome_step_indentBy, outcome_leave, if_true]
    exact follows_step (lift (result.part "value")) _
  · simp only [ran, went, ends, Run.outcome_bind, Run.outcome_indentBy, outcome_step_indentBy]
    rfl

end Calls

theorem follows_runSubtask (depth : Nat) (name : Value) :
    Follows .ok (runSubtask depth name) (Run.runSubtask depth name) := by
  induction depth generalizing name with
  | zero => exact follows_throw _
  | succ depth ih =>
      refine (follows_step _).bind fun key => (follows_step get).bind fun machine => ?_
      cases Table.fetch? key machine.subtasks with
      | none => exact follows_get_throw _
      | some body =>
          refine (follows_step _).bind fun shown => (follows_step _).bind fun _ => ?_
          exact (follows_step _).bind fun _ => follows_runSubtaskBody ih body

section Tasks

variable {call : Value → Course Value} {runCall : Value → Run Value}

theorem follows_runStep (follows : ∀ name, Follows .ok (call name) (runCall name))
    (code : StepCode) : Follows .ok (runStep call code) (Run.runStep runCall code) := by
  refine (follows_step _).bind fun name => (follows_step _).bind fun shown => ?_
  refine (follows_step _).bind fun _ => (follows_step _).bind fun _ => ?_
  exact (follows_execAll follows code.body).bind fun _ => follows_step _

theorem follows_runItems (follows : ∀ name, Follows .ok (call name) (runCall name))
    (items : List TaskItem) : Follows .ok (runItems call items) (Run.runItems runCall items) := by
  induction items with
  | nil => exact follows_pure _
  | cons item rest ih =>
      cases item with
      | fault cause => exact follows_throw _
      | step code => exact (follows_runStep follows code).bind fun _ => ih
      | subtask name body =>
          exact (follows_step _).bind fun name => (follows name).bind fun _ => ih
      | other => exact ih

theorem follows_runTask (follows : ∀ name, Follows .ok (call name) (runCall name)) (name : Value) :
    Follows .ok (runTask call name) (Run.runTask runCall name) := by
  refine (follows_step _).bind fun key => (follows_step get).bind fun machine => ?_
  cases Table.fetch? key machine.tasks with
  | none => exact follows_get_throw _
  | some items =>
      refine (follows_step _).bind fun shown => (follows_step _).bind fun _ => ?_
      refine (follows_step _).bind fun _ => ?_
      exact (follows_runItems follows items).bind fun _ => follows_step _

theorem follows_runTasks (follows : ∀ name, Follows .ok (call name) (runCall name))
    (names : List Value) : Follows .ok (runTasks call names) (Run.runTasks runCall names) := by
  induction names with
  | nil => exact follows_pure _
  | cons name rest ih => exact (follows_runTask follows name).bind fun _ => ih

end Tasks

theorem follows_executeChecked (tree : Value) :
    Follows .ok (executeChecked tree) (Run.executeChecked tree) := by
  refine (follows_step get).bind fun machine => (follows_step _).bind fun _ => ?_
  refine (follows_step _).bind fun _ => (follows_step _).bind fun tasks => ?_
  refine (follows_step _).bind fun _ => (follows_step _).bind fun runs => ?_
  refine (follows_step _).bind fun names => ?_
  exact follows_runTasks (follows_runSubtask Run.maxDepth) names

theorem follows_execute (tree : Value) : Follows .ok (execute tree) (Run.execute tree) := by
  intro before
  rw [ending, execute, outcome_tryCatch, Run.execute, Run.outcome_tryCatch]
  rcases (follows_executeChecked tree).cases before with ⟨stop, after, ran, left⟩ |
    ⟨_, after, ran, went⟩
  · simp only [ran, left]
    cases stop <;> rfl
  · simp only [ran, went, decoded]

end Course

end Stepwise
