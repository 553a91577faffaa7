import Stepwise.Proofs.Settings.Steady

/-!
# What computations leave alone

A computation on a machine `Shifts` the indentation: it keeps the settings and some other part of the
machine, and if it gives a result, the indentation has changed by a given amount.  What it keeps holds
where it stops as well.

Almost all computations that a course is made of are `Quiet`: they keep the variables, the tasks and the
subtasks, and the indentation does not change.  Loops, choices and bodies change the indentation;
assignments and registrations are what changes the rest.
-/

namespace Stepwise

/-- How many levels an indentation counts for that is made only if the machine explains itself. -/
def Settings.unit (settings : Settings) : Int :=
  if settings.explain then 1 else 0

/-- What a program defines and assigns. -/
def Machine.contents (machine : Machine) :
    Table Value × Table (List TaskItem) × Table (List Action) :=
  (machine.variables, machine.tasks, machine.subtasks)

namespace Run

variable {α β γ σ : Type} {kept : Machine → σ} {settings : Settings} {amount more : Int}

/-- How an outcome compares with the machine before. -/
structure Shifted (kept : Machine → σ) (amount : Int) (machine : Machine)
    (outcome : Except Stop α × Machine) : Prop where
  settings : outcome.2.settings = machine.settings
  kept : kept outcome.2 = kept machine
  indent : ∀ value, outcome.1 = .ok value → outcome.2.indent = machine.indent + amount

/-- The computation changes the indentation by an amount, on every machine with the settings. -/
def Shifts (kept : Machine → σ) (settings : Settings) (amount : Int) (run : Run α) : Prop :=
  ∀ machine, machine.settings = settings → Shifted kept amount machine (run.outcome machine)

/-- The computation changes neither the contents of the machine nor its indentation. -/
abbrev Quiet (settings : Settings) (run : Run α) : Prop :=
  Shifts Machine.contents settings 0 run

/-! ## Rules -/

theorem shifts_pure (value : α) : Shifts kept settings 0 (pure value) :=
  fun machine _ => ⟨rfl, rfl, fun _ _ => (Int.add_zero machine.indent).symm⟩

theorem shifts_get : Shifts kept settings 0 get :=
  fun machine _ => ⟨rfl, rfl, fun _ _ => (Int.add_zero machine.indent).symm⟩

theorem shifts_throw (stop : Stop) : Shifts kept settings amount (throw stop : Run α) :=
  fun _ _ => ⟨rfl, rfl, fun _ ended => by cases ended⟩

theorem shifts_lift (result : Except Fault α) : Shifts kept settings 0 (lift result) := by
  cases result with
  | ok value => exact shifts_pure value
  | error cause => exact shifts_throw _

theorem shifts_modify {change : Machine → Machine}
    (keepsSettings : ∀ machine, (change machine).settings = machine.settings)
    (keeps : ∀ machine, kept (change machine) = kept machine)
    (indents : ∀ machine, (change machine).indent = machine.indent + amount) :
    Shifts kept settings amount (modify change) :=
  fun machine _ => ⟨keepsSettings machine, keeps machine, fun _ _ => indents machine⟩

theorem quiet_modify {change : Machine → Machine}
    (keepsSettings : ∀ machine, (change machine).settings = machine.settings)
    (keeps : ∀ machine, kept (change machine) = kept machine)
    (keepsIndent : ∀ machine, (change machine).indent = machine.indent) :
    Shifts kept settings 0 (modify change) :=
  shifts_modify keepsSettings keeps fun machine => by simp [keepsIndent]

theorem Shifts.bind {run : Run α} {next : α → Run β} (shifts : Shifts kept settings amount run)
    (shiftsNext : ∀ value, Shifts kept settings more (next value)) :
    Shifts kept settings (amount + more) (run >>= next) := by
  intro machine isSet
  have first := shifts machine isSet
  rw [outcome_bind]
  revert first
  rcases run.outcome machine with ⟨stop | value, after⟩
  · exact fun first => ⟨first.settings, first.kept, fun _ ended => by cases ended⟩
  · intro first
    have second := shiftsNext value after (first.settings.trans isSet)
    have indented : after.indent = machine.indent + amount := first.indent value rfl
    refine ⟨second.settings.trans first.settings, second.kept.trans first.kept, ?_⟩
    intro result ended
    rw [second.indent result ended, indented, Int.add_assoc]

/-- A computation that keeps the indentation, in front of another one. -/
theorem Shifts.before {run : Run α} {next : α → Run β} (shifts : Shifts kept settings 0 run)
    (shiftsNext : ∀ value, Shifts kept settings amount (next value)) :
    Shifts kept settings amount (run >>= next) := by
  simpa using shifts.bind shiftsNext

theorem shifts_get_bind {next : Machine → Run α}
    (shifts : ∀ machine, Shifts kept settings amount (next machine)) :
    Shifts kept settings amount (get >>= next) :=
  fun machine => shifts machine machine

theorem shifts_ite {condition : Prop} [Decidable condition] {run other : Run α}
    (shifts : Shifts kept settings amount run) (shiftsOther : Shifts kept settings amount other) :
    Shifts kept settings amount (if condition then run else other) := by
  split
  · exact shifts
  · exact shiftsOther

theorem shifts_whenExplaining {action : Run Unit} (shifts : Shifts kept settings amount action) :
    Shifts kept settings (amount * settings.unit) (whenExplaining action) := by
  rintro machine rfl
  change Shifted _ _ _
    ((if machine.settings.explain = true then action else pure ()).outcome machine)
  rw [Settings.unit]
  split
  · simpa using shifts machine rfl
  · simpa using shifts_pure () machine rfl

theorem quiet_whenExplaining {action : Run Unit} (quiet : Quiet settings action) :
    Quiet settings (whenExplaining action) := by
  simpa using shifts_whenExplaining quiet

theorem shifts_mapM {run : γ → Run α} (shifts : ∀ item, Shifts kept settings 0 (run item))
    (items : List γ) : Shifts kept settings 0 (items.mapM run) := by
  induction items with
  | nil => exact shifts_pure []
  | cons item items ih =>
      rw [List.mapM_cons]
      exact (shifts item).before fun _ => ih.before fun _ => shifts_pure _

/-! ## Notes and output -/

theorem quiet_emit (event : Event) : Quiet settings (emit event) :=
  quiet_modify (fun _ => rfl) (fun _ => rfl) fun _ => rfl

theorem quiet_note (category message : String) : Quiet settings (note category message) :=
  quiet_whenExplaining (shifts_get_bind fun _ => quiet_emit _)

theorem quiet_output (text : String) : Quiet settings (output text) :=
  shifts_get_bind fun _ => quiet_emit _

theorem quiet_noteSaying (category : String) (message : Except Fault String) :
    Quiet settings (noteSaying category message) :=
  quiet_whenExplaining ((shifts_lift message).before fun _ => quiet_note category _)

theorem quiet_whenShown (number : Int) {action : Run Unit} (quiet : Quiet settings action) :
    Quiet settings (whenShown number action) :=
  shifts_get_bind fun _ => shifts_ite quiet (shifts_pure ())

theorem quiet_whenCut (number : Int) {action : Int → Run Unit}
    (quiet : ∀ shown, Quiet settings (action shown)) : Quiet settings (whenCut number action) :=
  shifts_get_bind fun _ => shifts_ite (quiet _) (shifts_pure ())

theorem quiet_setIterations (count : Nat) : Quiet settings (setIterations count) :=
  quiet_modify (fun _ => rfl) (fun _ => rfl) fun _ => rfl

theorem quiet_countIteration : Quiet settings countIteration :=
  quiet_modify (fun _ => rfl) (fun _ => rfl) fun _ => rfl

theorem quiet_noteIteration (message : Int → Except Fault String) :
    Quiet settings (noteIteration message) := by
  refine shifts_get_bind fun machine => ?_
  refine (quiet_whenShown _ (quiet_noteSaying _ _)).before fun _ => ?_
  refine (quiet_whenCut _ fun _ => quiet_note _ _).before fun _ => ?_
  exact quiet_countIteration

theorem quiet_noteRangeIteration (count number : Nat) (item value : Value) :
    Quiet settings (noteRangeIteration count number item value) :=
  (quiet_whenShown _ (quiet_noteSaying _ _)).before fun _ =>
    quiet_whenCut _ fun _ => quiet_note _ _

theorem quiet_completeLoop : Quiet settings completeLoop :=
  shifts_get_bind fun _ => quiet_note _ _

theorem quiet_announce (tree : Value) : Quiet settings (announce tree) := by
  refine quiet_whenExplaining ((shifts_lift _).before fun objective => ?_)
  exact (shifts_lift _).before fun shown => shifts_get_bind fun _ => quiet_emit _

/-! ## Indentation -/

theorem shifts_indentBy (amount : Int) :
    Shifts Machine.contents settings amount (indentBy amount) :=
  shifts_modify (fun _ => rfl) (fun _ => rfl) fun _ => rfl

theorem shifts_explainedIndentBy (amount : Int) :
    Shifts Machine.contents settings (amount * settings.unit) (explainedIndentBy amount) :=
  shifts_whenExplaining (shifts_indentBy amount)

/-- What opens a loop or a choice goes one level further in. -/
theorem shifts_opening {action : Run Unit} (shifts : Shifts kept settings 1 action) :
    Shifts kept settings settings.unit (whenExplaining action) := by
  simpa using shifts_whenExplaining shifts

theorem shifts_openLoop (node : Value) :
    Shifts Machine.contents settings settings.unit (openLoop node) := by
  refine shifts_opening ((quiet_noteSaying _ _).before fun _ => ?_)
  exact (shifts_indentBy 1).bind fun _ => quiet_setIterations 0

theorem shifts_openRange (range : Value) :
    Shifts Machine.contents settings settings.unit (openRange range) := by
  refine shifts_opening ((shifts_lift _).before fun length => ?_)
  exact (quiet_note _ _).before fun _ => (quiet_note _ _).before fun _ => shifts_indentBy 1

theorem shifts_openNumbered (name : Value) :
    Shifts Machine.contents settings settings.unit (openNumbered name) :=
  shifts_opening ((quiet_noteSaying _ _).before fun _ => shifts_indentBy 1)

theorem shifts_openChoice : Shifts Machine.contents settings settings.unit openChoice :=
  shifts_opening ((quiet_note _ _).before fun _ => shifts_indentBy 1)

/-! ## Variables and supplies -/

theorem quiet_valueNamed? (name : Value) : Quiet settings (valueNamed? name) :=
  (shifts_lift _).before fun _ => shifts_get_bind fun _ => shifts_pure _

theorem quiet_readVariable (name : String) : Quiet settings (readVariable name) := by
  refine shifts_get_bind fun machine => ?_
  split
  · exact shifts_pure _
  · exact shifts_throw _

theorem quiet_startCursor (source : Supply) (next : Int) :
    Quiet settings (startCursor source next) := by
  refine shifts_get_bind fun machine => Shifts.before ?_ fun _ => shifts_pure _
  exact quiet_modify (fun _ => rfl) (fun _ => rfl) fun _ => rfl

theorem quiet_takeCursor? (number : Nat) : Quiet settings (takeCursor? number) := by
  refine shifts_get_bind fun machine => ?_
  split
  · exact shifts_pure _
  · refine Shifts.before ?_ fun _ => shifts_pure _
    exact quiet_modify (fun _ => rfl) (fun _ => rfl) fun _ => rfl

theorem quiet_drainCursor (cursor count : Nat) : Quiet settings (drainCursor cursor count) := by
  induction count with
  | zero => exact shifts_pure _
  | succ count ih =>
      refine (quiet_takeCursor? cursor).before fun taken => ?_
      cases taken with
      | none => exact shifts_pure _
      | some item => exact ih.before fun _ => shifts_pure _

theorem quiet_drain (supply : Supply) : Quiet settings (drain supply) := by
  cases supply with
  | feed feed => exact shifts_pure _
  | cursor number => exact shifts_get_bind fun machine => quiet_drainCursor number _

theorem quiet_supplyOf (value : Value) : Quiet settings (supplyOf value) := by
  rw [supplyOf]
  split
  · exact shifts_pure _
  · exact shifts_throw _

/-! ## Operations and functions -/

theorem quiet_plus (left right : Value) : Quiet settings (plus left right) := by
  unfold plus
  split
  · exact (shifts_lift _).before fun _ => (shifts_lift _).before fun _ => shifts_pure _
  · exact (shifts_lift _).before fun _ => (shifts_lift _).before fun _ => shifts_pure _
  · exact shifts_pure _
  · exact shifts_throw _
  · exact shifts_lift _

theorem quiet_quotient (left right : Value) : Quiet settings (quotient left right) := by
  refine shifts_ite (shifts_throw _) ?_
  refine (shifts_lift _).before fun dividend => (shifts_lift _).before fun divisor => ?_
  exact shifts_ite (shifts_throw _) (shifts_pure _)

theorem quiet_asFloat (value : Value) : Quiet settings (asFloat value) :=
  (shifts_lift _).before fun _ => shifts_pure _

theorem quiet_operate (operator left right : Value) :
    Quiet settings (operate operator left right) := by
  unfold operate
  split
  · exact quiet_plus left right
  · exact (shifts_lift _).before quiet_asFloat
  · exact (shifts_lift _).before quiet_asFloat
  · exact quiet_quotient left right
  · exact shifts_pure _
  · exact shifts_pure _
  · exact (shifts_lift _).before fun _ => shifts_pure _
  · exact (shifts_lift _).before fun _ => shifts_pure _
  · exact (shifts_lift _).before fun _ => shifts_pure _
  · exact (shifts_lift _).before fun _ => shifts_pure _
  · exact shifts_throw _

theorem quiet_listItem (items : List Value) (position : Int) :
    Quiet settings (listItem items position) := by
  unfold listItem
  split
  · exact shifts_pure _
  · exact shifts_throw _

theorem quiet_indexList (items : List Value) (key : Value) :
    Quiet settings (indexList items key) := by
  unfold indexList
  split
  · exact quiet_listItem items _
  · split
    · exact quiet_listItem items _
    · exact shifts_throw _
  · exact shifts_throw _

theorem quiet_indexDict (entries : List (Value × Value)) (key : Value) :
    Quiet settings (indexDict entries key) := by
  unfold indexDict
  split
  · exact shifts_throw _
  · refine (shifts_lift _).before fun key => ?_
    split
    · exact shifts_pure _
    · exact shifts_throw _

theorem quiet_index (container key : Value) : Quiet settings (index container key) := by
  unfold index
  split
  · exact quiet_indexList _ key
  · exact quiet_indexDict _ key
  · exact shifts_throw _

theorem quiet_outputText (value : Value) : Quiet settings (outputText value) := by
  refine shifts_ite (shifts_lift _) ?_
  split
  · exact shifts_pure _
  · exact (shifts_lift _).before fun _ => shifts_pure _

theorem quiet_printValues (values : List Value) : Quiet settings (printValues values) := by
  refine (shifts_mapM quiet_outputText values).before fun texts => ?_
  refine (shifts_lift _).before fun joined => ?_
  exact (quiet_output _).before fun _ => shifts_pure _

theorem quiet_total (start : Value) (values : List Value) :
    Quiet settings (total start values) := by
  induction values generalizing start with
  | nil => exact shifts_pure _
  | cons value rest ih => exact (shifts_lift _).before fun sum => ih sum

theorem quiet_sumFrom (collection start : Value) : Quiet settings (sumFrom collection start) := by
  refine (quiet_supplyOf collection).before fun supply => ?_
  split
  · exact shifts_throw _
  · exact (quiet_drain supply).before fun items => quiet_total start items

theorem quiet_sumOf (arguments : List Value) : Quiet settings (sumOf arguments) := by
  unfold sumOf
  split
  · exact shifts_throw _
  · exact quiet_sumFrom _ _
  · exact quiet_sumFrom _ _
  · exact shifts_throw _

theorem quiet_lengthOf (arguments : List Value) : Quiet settings (lengthOf arguments) := by
  unfold lengthOf
  split
  · exact (shifts_lift _).before fun _ => shifts_pure _
  · exact shifts_throw _

theorem quiet_enumerationOf (arguments : List Value) :
    Quiet settings (enumerationOf arguments) := by
  unfold enumerationOf
  split
  · exact shifts_throw _
  · exact (quiet_supplyOf _).before fun supply => quiet_startCursor supply 0
  · refine (shifts_lift _).before fun first => ?_
    exact (quiet_supplyOf _).before fun supply => quiet_startCursor supply first
  · exact shifts_throw _

theorem quiet_rangeOf (arguments : List Value) : Quiet settings (rangeOf arguments) := by
  unfold rangeOf
  split
  · exact shifts_throw _
  · split
    · exact (shifts_lift _).before fun _ => shifts_pure _
    · exact (shifts_lift _).before fun _ => shifts_pure _
    · exact (shifts_lift _).before fun _ => shifts_pure _
    · exact shifts_throw _

theorem quiet_builtin? {name : String} {run : List Value → Run Value}
    (found : builtin? name = some run) (arguments : List Value) :
    Quiet settings (run arguments) := by
  unfold builtin? at found
  split at found
  · cases found
    exact quiet_rangeOf arguments
  · cases found
    exact quiet_sumOf arguments
  · cases found
    exact quiet_lengthOf arguments
  · cases found
    exact quiet_printValues arguments
  · cases found
    exact quiet_enumerationOf arguments
  · cases found

theorem quiet_passing (result : Except Stop Unit) : Quiet settings (passing result) := by
  cases result with
  | ok => exact shifts_pure _
  | error stop => exact shifts_throw stop

end Run

end Stepwise
