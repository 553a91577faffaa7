import Stepwise.Proofs.Course.Agreement

/-!
# What a return leaves

In a course a return is an exit: what follows it in a body, the iterations of a loop that are left, and
the bodies around it are passed over.  A run has no such exit.  It carries the return in a result that
every list of actions, loop and branch looks at.  The two agree, so a return leaves everything up to the
subtask whose body it stands in, which hands its value back, or up to an action of a step.
-/

namespace Stepwise

/-- The machine with the indentation of a body taken back. -/
def Machine.outdented (machine : Machine) : Machine :=
  { machine with indent := machine.indent + -1 }

namespace Course

variable {α : Type}

/-- How a course ends that starts on a machine, with nothing recorded. -/
def endingFrom (course : Course α) (machine : Machine) : Except Exit α × Machine :=
  course.ending ⟨machine, []⟩

/-- What a subtask makes of the end of its body: the value of a return, null if there is none. -/
def subtaskEnd : Except Exit Unit × Machine → Except Stop Value × Machine
  | (.ok (), after) => (.ok .null, after.outdented)
  | (.error (.returned value), after) => (value.mapError .fault, after.outdented)
  | (.error (.stopped stop), after) => (.error stop, after)

/-- What a step makes of the end of one of its actions: it goes on, unless the action stops. -/
def stepGoesOn (rest : Run Unit) : Except Exit Unit × Machine → Except Stop Unit × Machine
  | (.ok (), after) => rest.outcome after
  | (.error (.returned _), after) => rest.outcome after
  | (.error (.stopped stop), after) => (.error stop, after)

/-- What a body makes of the end of its first actions: it goes on only if nothing leaves it. -/
def bodyGoesOn (rest : Course Unit) : Except Exit Unit × Machine → Except Exit Unit × Machine
  | (.ok (), after) => rest.endingFrom after
  | (.error exit, after) => (.error exit, after)

section Calls

variable {call : Value → Course Value} {runCall : Value → Run Value}

theorem Follows.endingFrom {β : Type} {meaning : β → Except Exit α} {course : Course α}
    {run : Run β} (follows : Follows meaning course run) (machine : Machine) :
    course.endingFrom machine = decoded meaning (run.outcome machine) :=
  follows ⟨machine, []⟩

/-- What was recorded before does not matter for how a course ends that follows a run. -/
theorem Follows.ending_eq {β : Type} {meaning : β → Except Exit α} {course : Course α}
    {run : Run β} (follows : Follows meaning course run) (before : Recorded) :
    course.ending before = course.endingFrom before.machine :=
  (follows before).trans (follows.endingFrom before.machine).symm

theorem execBody_append (body rest : List Action) :
    execBody call (body ++ rest) = execBody call body >>= fun _ => execBody call rest := by
  induction body with
  | nil => rfl
  | cons action body ih =>
      rw [List.cons_append, execBody, execBody, ih, bind_assoc]

/-- Actions behind a return are not executed. -/
theorem endingFrom_execBody_append (follows : ∀ name, Follows .ok (call name) (runCall name))
    (body rest : List Action) (machine : Machine) :
    (execBody call (body ++ rest)).endingFrom machine =
      bodyGoesOn (execBody call rest) ((execBody call body).endingFrom machine) := by
  rw [execBody_append, Course.endingFrom, ending, outcome_bind, Course.endingFrom, ending]
  rcases (execBody call body).outcome ⟨machine, []⟩ with ⟨exit | _, after⟩
  · rfl
  · exact (follows_execBody follows rest).ending_eq after

theorem outcome_runSubtaskBody (follows : ∀ name, Follows .ok (call name) (runCall name))
    (body : List Action) (machine : Machine) :
    (Run.runSubtaskBody runCall body).outcome machine =
      subtaskEnd ((execBody call body).endingFrom machine) := by
  rw [Run.runSubtaskBody, Run.outcome_bind, Course.endingFrom, ending]
  rcases (follows_execBody follows body).cases_ended ⟨machine, []⟩ with ⟨stop, after, ran, left⟩ |
    ⟨result, after, ran, ends, left⟩ | ⟨result, after, ran, ends, went⟩
  · simp only [ran, left, subtaskEnd]
  · simp only [ran, left, ends, Run.outcome_bind, Run.outcome_indentBy, if_true, subtaskEnd]
    cases result.part "value" <;> rfl
  · simp only [ran, went, ends, Run.outcome_bind, Run.outcome_indentBy]
    rfl

theorem outcome_execAll_cons (follows : ∀ name, Follows .ok (call name) (runCall name))
    (action : Action) (rest : List Action) (machine : Machine) :
    (Run.execAll runCall (action :: rest)).outcome machine =
      stepGoesOn (Run.execAll runCall rest) ((exec call action).endingFrom machine) := by
  rw [Run.execAll, Run.outcome_bind, Course.endingFrom, ending]
  rcases (follows_exec follows action).cases_ended ⟨machine, []⟩ with ⟨stop, after, ran, left⟩ |
    ⟨result, after, ran, _, left⟩ | ⟨result, after, ran, _, went⟩
  · simp only [ran, left, stepGoesOn]
  · simp only [ran, left, stepGoesOn]
  · simp only [ran, went, stepGoesOn]

end Calls

/-- What a return leaves, whatever the bound on how deeply calls may be nested.

Every action, at any depth of loops and choices, ends as its course does.  A return ends its body with
the value of its term; a call ends it only if its value is tagged as a return, with the entry `value`.
What stands behind in the body is passed over, a subtask hands the value back, or null if its body comes
to its end, and a step goes on with its next action. -/
theorem return_leaves_body (depth : Nat) (machine : Machine) :
    let call := runSubtask depth
    let runCall := Run.runSubtask depth
    (∀ action, (exec call action).endingFrom machine =
      decoded ended ((Run.exec runCall action).outcome machine)) ∧
    (∀ term, (exec call (.yield term)).endingFrom machine =
      decoded (fun value => .error (.returned (.ok value)))
        ((Run.eval runCall term).outcome machine)) ∧
    (∀ term, (exec call (.call term)).endingFrom machine =
      decoded (fun value => if value.hasTag "return" then .error (.returned (value.part "value"))
        else .ok ()) ((Run.eval runCall term).outcome machine)) ∧
    (∀ body rest, (execBody call (body ++ rest)).endingFrom machine =
      bodyGoesOn (execBody call rest) ((execBody call body).endingFrom machine)) ∧
    (∀ body, (Run.runSubtaskBody runCall body).outcome machine =
      subtaskEnd ((execBody call body).endingFrom machine)) ∧
    (∀ name, (call name).endingFrom machine = decoded .ok ((runCall name).outcome machine)) ∧
    (∀ action rest, (Run.execAll runCall (action :: rest)).outcome machine =
      stepGoesOn (Run.execAll runCall rest) ((exec call action).endingFrom machine)) := by
  intro call runCall
  have follows : ∀ name, Follows .ok (call name) (runCall name) := follows_runSubtask depth
  refine ⟨fun action => ?_, fun term => ?_, fun term => ?_, fun body rest => ?_, fun body => ?_,
    fun name => ?_, fun action rest => ?_⟩
  · exact (follows_exec follows action).endingFrom machine
  · have leaves : Follows (fun value => .error (.returned (.ok value))) (exec call (.yield term))
        (Run.eval runCall term) :=
      (follows_eval follows term).read fun _ _ => rfl
    exact leaves.endingFrom machine
  · exact (follows_exec follows (.call term)).endingFrom machine
  · exact endingFrom_execBody_append follows body rest machine
  · exact outcome_runSubtaskBody follows body machine
  · exact (follows name).endingFrom machine
  · exact outcome_execAll_cons follows action rest machine

end Course

end Stepwise
