import Stepwise.Machine.Exec

/-!
# Silent computations

Machines that differ in their settings show a run differently: what they note, how they indent it and
which iterations they leave out.  `Machine.computed` is the rest of a machine, with the lines of output
as they are before indentation and style.

A computation that only presents something is `Silent`: it changes nothing of what was computed,
whether it does anything or not.  A note needs the texts of values and the lengths of ranges, so it may
stop a run because an integer has too many digits or a length is too large.  Those stops are set apart
by `atLimit`, and a silent computation has no others.
-/

namespace Stepwise

/-! ## What a machine has computed -/

/-- The line of output that an event shows. -/
def Event.output? : Event → Option String
  | .output _ text => some text
  | _ => none

/-- All of a machine that does not depend on how it presents a run. -/
structure Computed where
  source : Option String
  «variables» : Table Value
  tasks : Table (List TaskItem)
  subtasks : Table (List Action)
  cursors : List Cursor
  outputs : List String

/-- The lines of output, the first one first, without indentation and style. -/
def Machine.outputs (machine : Machine) : List String :=
  machine.log.reverse.filterMap Event.output?

/-- What a machine has computed so far. -/
def Machine.computed (machine : Machine) : Computed where
  source := machine.source
  «variables» := machine.variables
  tasks := machine.tasks
  subtasks := machine.subtasks
  cursors := machine.cursors
  outputs := machine.outputs

/-- A fault that arises because a value is too large to be shown or counted. -/
def Fault.isLimit : Fault → Bool
  | .digitsShown | .lengthTooLarge => true
  | _ => false

def Stop.isLimit : Stop → Bool
  | .fault cause => cause.isLimit
  | .report _ => false

/-- Whether a run stopped because a value was too large to be shown or counted. -/
def atLimit {α : Type} : Except Stop α → Bool
  | .error stop => stop.isLimit
  | .ok _ => false

namespace Run

variable {α β : Type}

/-- What a computation gives on a machine, and the machine afterwards. -/
def outcome (run : Run α) (machine : Machine) : Except Stop α × Machine :=
  (ExceptT.run run).run machine

theorem outcome_get_bind (next : Machine → Run α) (machine : Machine) :
    (get >>= next).outcome machine = (next machine).outcome machine := rfl

theorem outcome_modify (change : Machine → Machine) (machine : Machine) :
    (modify change : Run Unit).outcome machine = (.ok (), change machine) := rfl

theorem outcome_indentBy (amount : Int) (machine : Machine) :
    (indentBy amount).outcome machine =
      (.ok (), { machine with indent := machine.indent + amount }) := rfl

theorem outcome_bind (run : Run α) (next : α → Run β) (machine : Machine) :
    (run >>= next).outcome machine =
      match run.outcome machine with
      | (.ok value, after) => (next value).outcome after
      | (.error stop, after) => (.error stop, after) := by
  have opened : (run >>= next).outcome machine =
      ExceptT.bindCont next (run.outcome machine).1 (run.outcome machine).2 := rfl
  rw [opened]
  cases run.outcome machine with
  | mk result after => cases result <;> rfl

/-! ## Results within limits -/

/-- A result that fails only because a value is too large. -/
def Limited (result : Except Fault α) : Prop :=
  ∀ cause, result = .error cause → cause.isLimit = true

theorem limited_ok (value : α) : Limited (.ok value) :=
  nofun

theorem Limited.bind {result : Except Fault α} {next : α → Except Fault β}
    (limited : Limited result) (limitedNext : ∀ value, Limited (next value)) :
    Limited (result >>= next) := by
  cases result with
  | ok value => exact limitedNext value
  | error cause =>
      rintro _ ⟨⟩
      exact limited cause rfl

theorem limited_say (value : Value) : Limited value.say := by
  intro cause failed
  rw [Value.say] at failed
  split at failed
  · cases failed
  · cases failed
    rfl

/-! ## Silent computations -/

/-- The computation changes nothing that counts and does not stop, unless a value is too large. -/
def Silent (run : Run α) : Prop :=
  ∀ machine, atLimit (run.outcome machine).1 = true ∨
    (∃ value, (run.outcome machine).1 = .ok value) ∧
      (run.outcome machine).2.computed = machine.computed

theorem silent_pure (value : α) : Silent (pure value) :=
  fun _ => .inr ⟨⟨value, rfl⟩, rfl⟩

theorem Silent.bind {run : Run α} {next : α → Run β} (silent : Silent run)
    (silentNext : ∀ value, Silent (next value)) : Silent (run >>= next) := by
  intro machine
  rw [outcome_bind]
  have first := silent machine
  revert first
  rcases run.outcome machine with ⟨result, after⟩
  rintro (limit | ⟨⟨value, rfl⟩, same⟩)
  · cases result with
    | error stop => exact .inl limit
    | ok value => cases limit
  · rcases silentNext value after with limit | ⟨ends, sameNext⟩
    · exact .inl limit
    · exact .inr ⟨ends, sameNext.trans same⟩

theorem silent_get_bind {next : Machine → Run α} (silent : ∀ machine, Silent (next machine)) :
    Silent (get >>= next) :=
  fun machine => silent machine machine

theorem silent_modify {change : Machine → Machine}
    (same : ∀ machine, (change machine).computed = machine.computed) :
    Silent (modify change) :=
  fun machine => .inr ⟨⟨(), rfl⟩, same machine⟩

theorem silent_lift {result : Except Fault α} (limited : Limited result) :
    Silent (lift result) := by
  cases result with
  | ok value => exact silent_pure value
  | error cause => exact fun _ => .inl (limited cause rfl)

theorem silent_ite {condition : Prop} [Decidable condition] {run other : Run α}
    (silent : Silent run) (silentOther : Silent other) :
    Silent (if condition then run else other) := by
  split
  · exact silent
  · exact silentOther

theorem silent_whenExplaining {action : Run Unit} (silent : Silent action) :
    Silent (whenExplaining action) :=
  silent_get_bind fun _ => silent_ite silent (silent_pure ())

theorem silent_emit {event : Event} (noOutput : event.output? = none) : Silent (emit event) :=
  silent_modify fun machine => by simp [Machine.computed, Machine.outputs, noOutput]

theorem silent_note (category message : String) : Silent (note category message) :=
  silent_whenExplaining (silent_get_bind fun _ => silent_emit rfl)

theorem silent_indentBy (amount : Int) : Silent (indentBy amount) :=
  silent_modify fun _ => rfl

theorem silent_explainedIndentBy (amount : Int) : Silent (explainedIndentBy amount) :=
  silent_whenExplaining (silent_indentBy amount)

theorem silent_noteSaying (category : String) {message : Except Fault String}
    (limited : Limited message) : Silent (noteSaying category message) :=
  silent_whenExplaining ((silent_lift limited).bind fun text => silent_note category text)

theorem silent_whenShown (number : Int) {action : Run Unit} (silent : Silent action) :
    Silent (whenShown number action) :=
  silent_get_bind fun _ => silent_ite silent (silent_pure ())

theorem silent_whenCut (number : Int) {action : Int → Run Unit}
    (silent : ∀ shown, Silent (action shown)) : Silent (whenCut number action) :=
  silent_get_bind fun _ => silent_ite (silent _) (silent_pure ())

theorem limited_binding (name value : Value) : Limited (binding name value) :=
  (limited_say name).bind fun _ => (limited_say value).bind fun _ => limited_ok _

theorem limited_iterationNote (number : Int) (name value : Value) :
    Limited (iterationNote number name value) :=
  (limited_binding name value).bind fun _ => limited_ok _

theorem limited_numberedNote (number : Int) (index position element value : Value) :
    Limited (numberedNote number index position element value) :=
  (limited_binding index position).bind fun _ =>
    (limited_binding element value).bind fun _ => limited_ok _

theorem silent_noteIteration {message : Int → Except Fault String}
    (limited : ∀ count, Limited (message count)) : Silent (noteIteration message) := by
  refine silent_get_bind fun machine => ?_
  refine (silent_whenShown _ (silent_noteSaying _ (limited _))).bind fun _ => ?_
  refine (silent_whenCut _ fun _ => silent_note _ _).bind fun _ => ?_
  exact silent_modify fun _ => rfl

theorem silent_openLoop (node : Value) : Silent (openLoop node) := by
  have limited : Limited (do
      return "Starting a loop that will go through each item in " ++ (← node.say)) :=
    (limited_say node).bind fun _ => limited_ok _
  refine silent_whenExplaining ((silent_noteSaying _ limited).bind fun _ => ?_)
  exact (silent_indentBy 1).bind fun _ => silent_modify fun _ => rfl

theorem silent_completeLoop : Silent completeLoop :=
  silent_get_bind fun _ => silent_note _ _

theorem limited_length (start stop step : Int) :
    Limited (Value.range start stop step).length := by
  intro cause failed
  rw [Value.length] at failed
  simp only [Value.feed?] at failed
  split at failed
  · cases failed
    rfl
  · cases failed

theorem silent_openRange (stop : Int) : Silent (openRange (.range 0 stop 1)) := by
  refine silent_whenExplaining ((silent_lift (limited_length 0 stop 1)).bind fun length => ?_)
  exact (silent_note _ _).bind fun _ => (silent_note _ _).bind fun _ => silent_indentBy 1

theorem silent_noteRangeIteration (count number : Nat) (item value : Value) :
    Silent (noteRangeIteration count number item value) :=
  (silent_whenShown _ (silent_noteSaying _ (limited_iterationNote _ item value))).bind fun _ =>
    silent_whenCut _ fun _ => silent_note _ _

theorem silent_openNumbered (name : Value) : Silent (openNumbered name) := by
  have limited : Limited (do return "Starting enumerate loop over " ++ (← name.say)) :=
    (limited_say name).bind fun _ => limited_ok _
  exact silent_whenExplaining ((silent_noteSaying _ limited).bind fun _ => silent_indentBy 1)

theorem silent_openChoice : Silent openChoice :=
  silent_whenExplaining ((silent_note _ _).bind fun _ => silent_indentBy 1)

/-- The objective of a program is a text. -/
theorem silent_announce {tree : Value} {objective : String}
    (isText : tree.part "objective" = .ok (.str objective)) : Silent (announce tree) := by
  refine silent_whenExplaining ?_
  rw [isText]
  refine (silent_pure _).bind fun value => ?_
  exact (silent_lift (limited_say value)).bind fun _ => silent_get_bind fun _ => silent_emit rfl

end Run

end Stepwise
