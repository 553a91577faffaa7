import Stepwise.Proofs.Settings.Silent

/-!
# Courses

A course is a second reading of a run.  It differs in two ways from a computation on a machine.

A return leaves the actions around it at once, like a stop does: it is an exit of its own, and not a
result that every list of actions and every loop has to look at.  Where something has to be done on the
way out, `afterReturn` says so, and `contained` and `handedBack` are the two places where a return ends.

A course also records what happens in it.  Every step that it takes is recorded with the machine as the
step leaves it; a step assigns one variable at most, so no state of the variables goes unrecorded.  The
end of a branch that was taken is recorded too.
-/

namespace Stepwise

/-- How a course leaves what is around it. -/
inductive Exit where
  /-- A return with what it hands back: a value, or the fault that there is none. -/
  | returned (value : Except Fault Value)
  | stopped (stop : Stop)

/-- Something that happens in the course of a run. -/
inductive Incident where
  /-- A step was taken and left the machine like this. -/
  | step (machine : Machine)
  /-- A choice took a branch, and no return left its body. -/
  | branchEnd

/-- A machine with what has happened so far, the last first. -/
structure Recorded where
  machine : Machine
  incidents : List Incident

/-- The course of a run. -/
abbrev Course (α : Type) := ExceptT Exit (StateM Recorded) α

namespace Course

variable {α β : Type}

/-- How a course ends, and what is recorded then. -/
def outcome (course : Course α) (before : Recorded) : Except Exit α × Recorded :=
  (ExceptT.run course).run before

/-- One step, which a computation on the machine does. -/
def step (run : Run α) : Course α :=
  ExceptT.mk fun before =>
    let (result, machine) := run.outcome before.machine
    (result.mapError .stopped, ⟨machine, .step machine :: before.incidents⟩)

/-- Records the end of a branch. -/
def recordBranchEnd : Course Unit :=
  modify fun before => { before with incidents := .branchEnd :: before.incidents }

/-- Returns. -/
def leave (value : Except Fault Value) : Course α :=
  throw (.returned value)

/-- Does something on the way out of a return. -/
def afterReturn (course : Course α) (cleanup : Course Unit) : Course α :=
  tryCatch course fun exit =>
    match exit with
    | .returned value => do
      cleanup
      leave value
    | .stopped stop => throw (.stopped stop)

/-- A return leaves this course and nothing around it. -/
def contained (course : Course Unit) : Course Unit :=
  tryCatch course fun exit =>
    match exit with
    | .returned _ => pure ()
    | .stopped stop => throw (.stopped stop)

/-- The value of a body: what a return in it hands back, and null if it comes to its end. -/
def handedBack (body : Course Unit) : Course Value :=
  tryCatch (do body; return .null) fun exit =>
    match exit with
    | .returned value => step (Run.lift value)
    | .stopped stop => throw (.stopped stop)

/-! ## Outcomes -/

theorem outcome_step (run : Run α) (before : Recorded) :
    (step run).outcome before =
      ((run.outcome before.machine).1.mapError .stopped,
        ⟨(run.outcome before.machine).2,
          .step (run.outcome before.machine).2 :: before.incidents⟩) := rfl

theorem outcome_step_indentBy (amount : Int) (before : Recorded) :
    (step (Run.indentBy amount)).outcome before =
      let machine := { before.machine with indent := before.machine.indent + amount }
      (.ok (), ⟨machine, .step machine :: before.incidents⟩) := rfl

theorem outcome_leave (value : Except Fault Value) (before : Recorded) :
    (leave value : Course α).outcome before = (.error (.returned value), before) := rfl

theorem outcome_bind (course : Course α) (next : α → Course β) (before : Recorded) :
    (course >>= next).outcome before =
      match course.outcome before with
      | (.ok value, after) => (next value).outcome after
      | (.error exit, after) => (.error exit, after) := by
  have opened : (course >>= next).outcome before =
      ExceptT.bindCont next (course.outcome before).1 (course.outcome before).2 := rfl
  rw [opened]
  cases course.outcome before with
  | mk result after => cases result <;> rfl

theorem outcome_tryCatch (course : Course α) (handle : Exit → Course α) (before : Recorded) :
    (tryCatch course handle).outcome before =
      match course.outcome before with
      | (.ok value, after) => (.ok value, after)
      | (.error exit, after) => (handle exit).outcome after := by
  simp only [outcome, ExceptT.run, tryCatch, tryCatchThe, MonadExceptOf.tryCatch, ExceptT.tryCatch,
    ExceptT.mk, StateT.run, bind, StateT.bind]
  cases course before with
  | mk result after => cases result <;> rfl

theorem outcome_afterReturn (course : Course α) (cleanup : Course Unit) (before : Recorded) :
    (afterReturn course cleanup).outcome before =
      match course.outcome before with
      | (.error (.returned value), after) =>
        (cleanup >>= fun _ => leave value).outcome after
      | ended => ended := by
  rw [afterReturn, outcome_tryCatch]
  rcases course.outcome before with ⟨(_ | _) | _, after⟩ <;> rfl

theorem outcome_contained (course : Course Unit) (before : Recorded) :
    (contained course).outcome before =
      match course.outcome before with
      | (.error (.returned _), after) => (.ok (), after)
      | ended => ended := by
  rw [contained, outcome_tryCatch]
  rcases course.outcome before with ⟨(_ | _) | _, after⟩ <;> rfl

theorem outcome_handedBack (body : Course Unit) (before : Recorded) :
    (handedBack body).outcome before =
      match body.outcome before with
      | (.ok (), after) => (.ok .null, after)
      | (.error (.returned value), after) => (step (Run.lift value)).outcome after
      | (.error (.stopped stop), after) => (.error (.stopped stop), after) := by
  rw [handedBack, outcome_tryCatch, outcome_bind]
  rcases body.outcome before with ⟨(_ | _) | _, after⟩ <;> rfl

end Course

end Stepwise
