import Stepwise.Proofs.Course.Exec

/-!
# Conditions on courses

`Meets start course ends` says: if `start` holds of what is recorded before the course, then `ends`
holds when it ends.  `Ends` has one condition for each way of ending, so a return carries a condition of
its own through everything that it leaves, and the rules for the places where it is caught change that
condition only.
-/

namespace Stepwise.Course

variable {α β : Type}

/-- What holds when a course ends, for each way of ending. -/
structure Ends (α : Type) where
  ok : α → Recorded → Prop
  returned : Except Fault Value → Recorded → Prop
  stopped : Recorded → Prop

/-- Whether the condition on the way a course ended holds. -/
def Ends.Holds (ends : Ends α) : Except Exit α × Recorded → Prop
  | (.ok value, after) => ends.ok value after
  | (.error (.returned value), after) => ends.returned value after
  | (.error (.stopped _), after) => ends.stopped after

/-- From where `start` holds, the course ends with `ends`. -/
def Meets (start : Recorded → Prop) (course : Course α) (ends : Ends α) : Prop :=
  ∀ before, start before → ends.Holds (course.outcome before)

section Rules

variable {start : Recorded → Prop} {ends : Ends α}

theorem meets_pure {value : α} (holds : ∀ before, start before → ends.ok value before) :
    Meets start (pure value) ends :=
  holds

theorem meets_leave {value : Except Fault Value}
    (holds : ∀ before, start before → ends.returned value before) :
    Meets start (leave value) ends :=
  holds

theorem meets_step {run : Run α}
    (ok : ∀ before value machine, start before →
      run.outcome before.machine = (.ok value, machine) →
        ends.ok value ⟨machine, .step machine :: before.incidents⟩)
    (stopped : ∀ before stop machine, start before →
      run.outcome before.machine = (.error stop, machine) →
        ends.stopped ⟨machine, .step machine :: before.incidents⟩) :
    Meets start (step run) ends := by
  intro before holds
  rw [outcome_step]
  cases ran : run.outcome before.machine with
  | mk result machine =>
      cases result with
      | ok value => exact ok before value machine holds ran
      | error stop => exact stopped before stop machine holds ran

theorem Meets.bind {ends : Ends β} {middle : α → Recorded → Prop} {course : Course α}
    {next : α → Course β} (meets : Meets start course ⟨middle, ends.returned, ends.stopped⟩)
    (meetsNext : ∀ value, Meets (middle value) (next value) ends) :
    Meets start (course >>= next) ends := by
  intro before holds
  have first := meets before holds
  rw [outcome_bind]
  revert first
  rcases course.outcome before with ⟨(value | stop) | value, after⟩
  · exact id
  · exact id
  · exact meetsNext value after

theorem meets_ite {condition : Prop} [Decidable condition] {course other : Course α}
    (meets : Meets start course ends) (meetsOther : Meets start other ends) :
    Meets start (if condition then course else other) ends := by
  split
  · exact meets
  · exact meetsOther

theorem Meets.afterReturn {leaving : Except Fault Value → Recorded → Prop} {course : Course α}
    {cleanup : Course Unit} (meets : Meets start course ⟨ends.ok, leaving, ends.stopped⟩)
    (cleans : ∀ value,
      Meets (leaving value) cleanup ⟨fun _ => ends.returned value, ends.returned, ends.stopped⟩) :
    Meets start (afterReturn course cleanup) ends := by
  intro before holds
  have first := meets before holds
  rw [outcome_afterReturn]
  revert first
  rcases course.outcome before with ⟨(value | stop) | value, after⟩
  · exact (cleans value).bind (fun _ => meets_leave fun _ => id) after
  · exact id
  · exact id

theorem Meets.contained {ends : Ends Unit} {course : Course Unit}
    (meets : Meets start course ⟨ends.ok, fun _ => ends.ok (), ends.stopped⟩) :
    Meets start (contained course) ends := by
  intro before holds
  have first := meets before holds
  rw [outcome_contained]
  revert first
  rcases course.outcome before with ⟨(value | stop) | value, after⟩ <;> exact id

theorem Meets.handedBack {ends : Ends Value} {leaving : Except Fault Value → Recorded → Prop}
    {body : Course Unit}
    (meets : Meets start body ⟨fun _ => ends.ok .null, leaving, ends.stopped⟩)
    (hands : ∀ value, Meets (leaving value) (step (Run.lift value)) ends) :
    Meets start (handedBack body) ends := by
  intro before holds
  have first := meets before holds
  rw [outcome_handedBack]
  revert first
  rcases body.outcome before with ⟨(value | stop) | value, after⟩
  · exact hands value after
  · exact id
  · exact id

/-- A run that a fault stops is reported, which is one more step without an effect. -/
theorem Meets.execute {ends : Ends Unit} {tree : Value}
    (meets : Meets start (executeChecked tree) ends)
    (reports : ∀ after, ends.stopped after →
      ends.stopped ⟨after.machine, .step after.machine :: after.incidents⟩) :
    Meets start (execute tree) ends := by
  intro before holds
  have first := meets before holds
  rw [Course.execute, outcome_tryCatch]
  revert first
  rcases (executeChecked tree).outcome before with ⟨(value | ⟨cause | report⟩) | value, after⟩
  · exact id
  · exact reports after
  · exact id
  · exact id

end Rules

/-! ## Loops -/

section Loops

variable (ends : Ends Unit) {body : Nat → Value → Course Unit}

theorem meets_forItems (items : List Value) (number : Nat)
    (each : ∀ number, ∀ item ∈ items, Meets (ends.ok ()) (body number item) ends) :
    Meets (ends.ok ()) (forItems body items number) ends := by
  induction items generalizing number with
  | nil => exact meets_pure fun _ => id
  | cons item items ih =>
      refine (each number item List.mem_cons_self).bind fun _ => ih (number + 1) ?_
      exact fun number item member => each number item (List.mem_cons_of_mem _ member)

theorem meets_forSpan (gap : Int) (count : Nat) (first : Int) (number : Nat)
    (each : ∀ number n, Meets (ends.ok ()) (body number (.int n)) ends) :
    Meets (ends.ok ()) (forSpan body gap count first number) ends := by
  induction count generalizing first number with
  | zero => exact meets_pure fun _ => id
  | succ count ih => exact (each number first).bind fun _ => ih (first + gap) (number + 1)

theorem meets_forCursor (cursor count number : Nat)
    (takes : Meets (ends.ok ()) (step (Run.takeCursor? cursor))
      ⟨fun _ => ends.ok (), ends.returned, ends.stopped⟩)
    (each : ∀ number item, Meets (ends.ok ()) (body number item) ends) :
    Meets (ends.ok ()) (forCursor body cursor count number) ends := by
  induction count generalizing number with
  | zero => exact meets_pure fun _ => id
  | succ count ih =>
      refine takes.bind fun taken => ?_
      cases taken with
      | none => exact meets_pure fun _ => id
      | some item => exact (each number item).bind fun _ => ih (number + 1)

end Loops

end Stepwise.Course
