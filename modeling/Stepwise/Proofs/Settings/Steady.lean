import Stepwise.Proofs.Settings.Silent

/-!
# Steady computations

A computation is `Steady` if two runs of it, on machines that have computed the same so far, end the
same way and have computed the same again.  The machines may differ in everything else: their settings,
their indentation, their count of iterations and their notes.  One of the runs may find a value too
large to be shown or counted that the other never looks at; then nothing is said.

Steadiness composes: a chain of steady computations is steady, and so is one that has read the machine,
provided that it only uses what was computed.  This module goes through the computations from the
variables up to the evaluation of terms.  What a call of a subtask does is a parameter of evaluation,
and here it is any steady computation.
-/

namespace Stepwise.Run

variable {α β γ : Type}

/-! ## The relation between two runs -/

/-- Two outcomes agree on what was computed, unless a value was too large in one of the runs. -/
def Agree (left right : Except Stop α × Machine) : Prop :=
  atLimit left.1 = true ∨ atLimit right.1 = true ∨
    left.1 = right.1 ∧ left.2.computed = right.2.computed

/-- The computation goes the same way on all machines that have computed the same so far. -/
def Steady (run : Run α) : Prop :=
  ∀ left right : Machine, left.computed = right.computed →
    Agree (run.outcome left) (run.outcome right)

theorem steady_pure (value : α) : Steady (pure value) :=
  fun _ _ same => .inr (.inr ⟨rfl, same⟩)

theorem steady_throw (stop : Stop) : Steady (throw stop : Run α) :=
  fun _ _ same => .inr (.inr ⟨rfl, same⟩)

theorem steady_lift (result : Except Fault α) : Steady (lift result) := by
  cases result with
  | ok value => exact steady_pure value
  | error cause => exact steady_throw _

theorem Steady.bind {run : Run α} {next : α → Run β} (steady : Steady run)
    (steadyNext : ∀ value, Steady (next value)) : Steady (run >>= next) := by
  intro left right same
  have agree := steady left right same
  rw [outcome_bind, outcome_bind]
  revert agree
  rcases run.outcome left with ⟨resultLeft, afterLeft⟩
  rcases run.outcome right with ⟨resultRight, afterRight⟩
  rintro (limit | limit | ⟨sameResult, sameAfter⟩)
  · cases resultLeft with
    | error stop => exact .inl limit
    | ok value => cases limit
  · cases resultRight with
    | error stop => exact .inr (.inl limit)
    | ok value => cases limit
  · simp only at sameResult
    subst sameResult
    cases resultLeft with
    | error stop => exact .inr (.inr ⟨rfl, sameAfter⟩)
    | ok value => exact steadyNext value afterLeft afterRight sameAfter

/-- What a silent computation does on one of the machines may be missing on the other. -/
theorem Silent.steady {run : Run Unit} (silent : Silent run) : Steady run := by
  intro left right same
  rcases silent left with limit | ⟨⟨_, endsLeft⟩, sameLeft⟩
  · exact .inl limit
  rcases silent right with limit | ⟨⟨_, endsRight⟩, sameRight⟩
  · exact .inr (.inl limit)
  refine .inr (.inr ⟨endsLeft.trans endsRight.symm, ?_⟩)
  exact sameLeft.trans (same.trans sameRight.symm)

theorem steady_get_bind {next : Machine → Run α}
    (reads : ∀ left right : Machine, left.computed = right.computed → next left = next right)
    (steady : ∀ machine, Steady (next machine)) : Steady (get >>= next) := by
  intro left right same
  rw [outcome_get_bind, outcome_get_bind, reads left right same]
  exact steady right left right same

theorem steady_modify {change : Machine → Machine} (update : Computed → Computed)
    (computed : ∀ machine, (change machine).computed = update machine.computed) :
    Steady (modify change) := by
  intro left right same
  refine .inr (.inr ⟨rfl, ?_⟩)
  rw [outcome_modify, outcome_modify, computed, computed, same]

theorem steady_ite {condition : Prop} [Decidable condition] {run other : Run α}
    (steady : Steady run) (steadyOther : Steady other) :
    Steady (if condition then run else other) := by
  split
  · exact steady
  · exact steadyOther

theorem steady_mapM {run : γ → Run α} (steady : ∀ item, Steady (run item)) (items : List γ) :
    Steady (items.mapM run) := by
  induction items with
  | nil => exact steady_pure []
  | cons item items ih =>
      rw [List.mapM_cons]
      exact (steady item).bind fun _ => ih.bind fun _ => steady_pure _

/-! ## Reading and changing the machine -/

section Reading

variable {left right : Machine}

theorem source_eq (same : left.computed = right.computed) : left.source = right.source :=
  congrArg Computed.source same

theorem variables_eq (same : left.computed = right.computed) :
    left.variables = right.variables :=
  congrArg Computed.variables same

theorem tasks_eq (same : left.computed = right.computed) : left.tasks = right.tasks :=
  congrArg Computed.tasks same

theorem subtasks_eq (same : left.computed = right.computed) : left.subtasks = right.subtasks :=
  congrArg Computed.subtasks same

theorem cursors_eq (same : left.computed = right.computed) : left.cursors = right.cursors :=
  congrArg Computed.cursors same

end Reading

theorem steady_valueNamed? (name : Value) : Steady (valueNamed? name) := by
  refine (steady_lift _).bind fun key => ?_
  refine steady_get_bind (fun left right same => ?_) fun _ => steady_pure _
  simp only [variables_eq same]

theorem steady_assign (name value : Value) : Steady (assign name value) := by
  refine (steady_lift _).bind fun key => ?_
  exact steady_modify
    (fun computed => { computed with «variables» := Table.store key value computed.variables })
    fun _ => rfl

/-- A line of output counts without the indentation that it is shown with. -/
theorem steady_output (text : String) : Steady (output text) := by
  intro left right same
  refine .inr (.inr ⟨rfl, ?_⟩)
  have appended : ∀ machine : Machine, ((output text).outcome machine).2.computed =
      { machine.computed with outputs := machine.computed.outputs ++ [text] } := by
    intro machine
    have shown : (output text).outcome machine =
        (.ok (), { machine with log := .output machine.indent text :: machine.log }) := rfl
    simp [shown, Machine.computed, Machine.outputs, Event.output?]
  rw [appended, appended, same]

theorem steady_startCursor (source : Supply) (next : Int) : Steady (startCursor source next) := by
  refine steady_get_bind (fun left right same => ?_) fun machine => ?_
  · simp only [cursors_eq same]
  · exact (steady_modify
      (fun computed => { computed with cursors := computed.cursors ++ [⟨source, next⟩] })
      fun _ => rfl).bind fun _ => steady_pure _

theorem steady_takeCursor? (number : Nat) : Steady (takeCursor? number) := by
  refine steady_get_bind (fun left right same => ?_) fun machine => ?_
  · simp only [cursors_eq same]
  · split
    · exact steady_pure _
    · next item cursors _ =>
        exact (steady_modify (fun computed => { computed with cursors := cursors })
          fun _ => rfl).bind fun _ => steady_pure _

/-! ## Supplies -/

section Loops

variable {body : Nat → Value → Run Value}

theorem steady_forItems (steady : ∀ number item, Steady (body number item))
    (items : List Value) (number : Nat) : Steady (forItems body items number) := by
  induction items generalizing number with
  | nil => exact steady_pure _
  | cons item items ih =>
      exact (steady number item).bind fun result =>
        steady_ite (steady_pure result) (ih (number + 1))

theorem steady_forSpan (steady : ∀ number item, Steady (body number item)) (step : Int)
    (count : Nat) (start : Int) (number : Nat) : Steady (forSpan body step count start number) := by
  induction count generalizing start number with
  | zero => exact steady_pure _
  | succ count ih =>
      exact (steady number (.int start)).bind fun result =>
        steady_ite (steady_pure result) (ih (start + step) (number + 1))

theorem steady_forCursor (steady : ∀ number item, Steady (body number item)) (cursor : Nat)
    (count number : Nat) : Steady (forCursor body cursor count number) := by
  induction count generalizing number with
  | zero => exact steady_pure _
  | succ count ih =>
      refine (steady_takeCursor? cursor).bind fun taken => ?_
      cases taken with
      | none => exact steady_pure _
      | some item =>
          exact (steady number item).bind fun result =>
            steady_ite (steady_pure result) (ih (number + 1))

theorem steady_forSupply (steady : ∀ number item, Steady (body number item)) (supply : Supply) :
    Steady (forSupply supply body) := by
  cases supply with
  | feed feed =>
      cases feed with
      | items items => exact steady_forItems steady items 0
      | span start step count => exact steady_forSpan steady step count start 0
  | cursor number =>
      refine steady_get_bind (fun left right same => ?_) fun machine => ?_
      · simp only [cursors_eq same]
      · exact steady_forCursor steady number _ 0

end Loops

theorem steady_drainCursor (cursor count : Nat) : Steady (drainCursor cursor count) := by
  induction count with
  | zero => exact steady_pure _
  | succ count ih =>
      refine (steady_takeCursor? cursor).bind fun taken => ?_
      cases taken with
      | none => exact steady_pure _
      | some item => exact ih.bind fun _ => steady_pure _

theorem steady_drain (supply : Supply) : Steady (drain supply) := by
  cases supply with
  | feed feed => exact steady_pure _
  | cursor number =>
      refine steady_get_bind (fun left right same => ?_) fun machine => ?_
      · simp only [cursors_eq same]
      · exact steady_drainCursor number _

theorem steady_supplyOf (value : Value) : Steady (supplyOf value) := by
  rw [supplyOf]
  split
  · exact steady_pure _
  · exact steady_throw _

/-! ## Operations and functions -/

theorem steady_plus (left right : Value) : Steady (plus left right) := by
  unfold plus
  split
  · exact (steady_lift _).bind fun _ => (steady_lift _).bind fun _ => steady_pure _
  · exact (steady_lift _).bind fun _ => (steady_lift _).bind fun _ => steady_pure _
  · exact steady_pure _
  · exact steady_throw _
  · exact steady_lift _

theorem steady_quotient (left right : Value) : Steady (quotient left right) := by
  refine steady_ite (steady_throw _) ?_
  refine (steady_lift _).bind fun dividend => (steady_lift _).bind fun divisor => ?_
  exact steady_ite (steady_throw _) (steady_pure _)

theorem steady_asFloat (value : Value) : Steady (asFloat value) :=
  (steady_lift _).bind fun _ => steady_pure _

theorem steady_operate (operator left right : Value) : Steady (operate operator left right) := by
  unfold operate
  split
  · exact steady_plus left right
  · exact (steady_lift _).bind steady_asFloat
  · exact (steady_lift _).bind steady_asFloat
  · exact steady_quotient left right
  · exact steady_pure _
  · exact steady_pure _
  · exact (steady_lift _).bind fun _ => steady_pure _
  · exact (steady_lift _).bind fun _ => steady_pure _
  · exact (steady_lift _).bind fun _ => steady_pure _
  · exact (steady_lift _).bind fun _ => steady_pure _
  · exact steady_throw _

theorem steady_listItem (items : List Value) (position : Int) :
    Steady (listItem items position) := by
  unfold listItem
  split
  · exact steady_pure _
  · exact steady_throw _

theorem steady_indexList (items : List Value) (key : Value) : Steady (indexList items key) := by
  unfold indexList
  split
  · exact steady_listItem items _
  · split
    · exact steady_listItem items _
    · exact steady_throw _
  · exact steady_throw _

theorem steady_indexDict (entries : List (Value × Value)) (key : Value) :
    Steady (indexDict entries key) := by
  unfold indexDict
  split
  · exact steady_throw _
  · refine (steady_lift _).bind fun key => ?_
    split
    · exact steady_pure _
    · exact steady_throw _

theorem steady_index (container key : Value) : Steady (index container key) := by
  unfold index
  split
  · exact steady_indexList _ key
  · exact steady_indexDict _ key
  · exact steady_throw _

theorem steady_outputText (value : Value) : Steady (outputText value) := by
  refine steady_ite (steady_lift _) ?_
  split
  · exact steady_pure _
  · exact (steady_lift _).bind fun _ => steady_pure _

theorem steady_printValues (values : List Value) : Steady (printValues values) := by
  refine (steady_mapM steady_outputText values).bind fun texts => ?_
  refine (steady_lift _).bind fun joined => ?_
  exact (steady_output _).bind fun _ => steady_pure _

theorem steady_total (start : Value) (values : List Value) : Steady (total start values) := by
  induction values generalizing start with
  | nil => exact steady_pure _
  | cons value rest ih => exact (steady_lift _).bind fun sum => ih sum

theorem steady_sumFrom (collection start : Value) : Steady (sumFrom collection start) := by
  refine (steady_supplyOf collection).bind fun supply => ?_
  split
  · exact steady_throw _
  · exact (steady_drain supply).bind fun items => steady_total start items

theorem steady_sumOf (arguments : List Value) : Steady (sumOf arguments) := by
  unfold sumOf
  split
  · exact steady_throw _
  · exact steady_sumFrom _ _
  · exact steady_sumFrom _ _
  · exact steady_throw _

theorem steady_lengthOf (arguments : List Value) : Steady (lengthOf arguments) := by
  unfold lengthOf
  split
  · exact (steady_lift _).bind fun _ => steady_pure _
  · exact steady_throw _

theorem steady_enumerationOf (arguments : List Value) : Steady (enumerationOf arguments) := by
  unfold enumerationOf
  split
  · exact steady_throw _
  · exact (steady_supplyOf _).bind fun supply => steady_startCursor supply 0
  · refine (steady_lift _).bind fun first => ?_
    exact (steady_supplyOf _).bind fun supply => steady_startCursor supply first
  · exact steady_throw _

theorem steady_rangeOf (arguments : List Value) : Steady (rangeOf arguments) := by
  unfold rangeOf
  split
  · exact steady_throw _
  · split
    · exact (steady_lift _).bind fun _ => steady_pure _
    · exact (steady_lift _).bind fun _ => steady_pure _
    · exact (steady_lift _).bind fun _ => steady_pure _
    · exact steady_throw _

theorem steady_builtin {name : String} {function : List Value → Run Value}
    (found : builtin? name = some function) (arguments : List Value) :
    Steady (function arguments) := by
  unfold builtin? at found
  split at found <;> cases found
  · exact steady_rangeOf arguments
  · exact steady_sumOf arguments
  · exact steady_lengthOf arguments
  · exact steady_printValues arguments
  · exact steady_enumerationOf arguments

/-! ## Evaluation -/

theorem steady_readVariable (name : String) : Steady (readVariable name) := by
  refine steady_get_bind (fun left right same => ?_) fun machine => ?_
  · simp only [variables_eq same]
  · split
    · exact steady_pure _
    · exact steady_throw _

section Calls

variable {call : Value → Run Value}

theorem steady_callSubtask (steadyCall : ∀ name, Steady (call name)) (function : Value) :
    Steady (callSubtask call function) := by
  refine (steady_lift _).bind fun key => ?_
  refine steady_get_bind (fun left right same => ?_) fun machine => ?_
  · simp only [subtasks_eq same]
  refine steady_ite (steadyCall key) ?_
  split
  · refine steady_get_bind (fun left right same => ?_) fun machine => ?_
    · simp only [subtasks_eq same]
    refine steady_ite (steadyCall _) ?_
    refine steady_get_bind (fun left right same => ?_) fun machine => steady_throw _
    simp only [subtasks_eq same, variables_eq same]
  · exact steady_throw _

theorem steady_callFunction (steadyCall : ∀ name, Steady (call name)) (function : Value)
    (arguments : List Value) : Steady (callFunction call function arguments) := by
  unfold callFunction
  split
  · split
    · next found => exact steady_builtin found arguments
    · exact steady_callSubtask steadyCall _
  · exact steady_callSubtask steadyCall _

mutual

theorem steady_eval (steadyCall : ∀ name, Steady (call name)) (term : Term) :
    Steady (eval call term) := by
  cases term with
  | const value => exact steady_pure value
  | var name => exact steady_readVariable name
  | fault cause => exact steady_throw _
  | after first last =>
      exact (steady_eval steadyCall first).bind fun _ => steady_eval steadyCall last
  | list items => exact (steady_evalItems steadyCall items).bind fun _ => steady_pure _
  | dict entries => exact (steady_evalEntries steadyCall entries []).bind fun _ => steady_pure _
  | index container key =>
      exact (steady_eval steadyCall container).bind fun container =>
        (steady_eval steadyCall key).bind fun key => steady_index container key
  | negate operand => exact (steady_eval steadyCall operand).bind fun _ => steady_lift _
  | binary operator left right =>
      exact (steady_eval steadyCall left).bind fun left =>
        (steady_eval steadyCall right).bind fun right => steady_operate operator left right
  | call function arguments =>
      exact (steady_evalAll steadyCall arguments).bind fun values =>
        steady_callFunction steadyCall function values

theorem steady_evalAll (steadyCall : ∀ name, Steady (call name)) (terms : List Term) :
    Steady (evalAll call terms) := by
  cases terms with
  | nil => exact steady_pure _
  | cons term rest =>
      refine (steady_eval steadyCall term).bind fun _ => ?_
      exact (steady_evalAll steadyCall rest).bind fun _ => steady_pure _

theorem steady_evalItems (steadyCall : ∀ name, Steady (call name)) (terms : List Term) :
    Steady (evalItems call terms) := by
  cases terms with
  | nil => exact steady_pure _
  | cons term rest =>
      refine (steady_eval steadyCall term).bind fun _ => (steady_lift _).bind fun _ => ?_
      exact (steady_evalItems steadyCall rest).bind fun _ => steady_pure _

theorem steady_evalEntries (steadyCall : ∀ name, Steady (call name))
    (entries : List (Term × Term)) (stored : Table Value) :
    Steady (evalEntries call entries stored) := by
  cases entries with
  | nil => exact steady_pure _
  | cons entry rest =>
      refine (steady_eval steadyCall entry.1).bind fun _ => ?_
      refine (steady_eval steadyCall entry.2).bind fun _ => ?_
      refine (steady_lift _).bind fun _ => (steady_lift _).bind fun _ => ?_
      exact (steady_lift _).bind fun _ => steady_evalEntries steadyCall rest _

end

end Calls

end Stepwise.Run
