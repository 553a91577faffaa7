import Stepwise.Proofs.Writes.Targets

/-!
# What code may do

Code that runs `Obeys` two rules.  It writes only to variables that are targets, its own or those of the
code that the machine has registered, and leaves the registered code as it is.  And it stops only with a
fault, or with one of the failures of code: that a task is not there is none of them.

Both rules hold whichever way a run ends.  They are kept by putting computations together, so they are
followed along the code: terms, functions, loops, choices, and at last the subtasks that code calls.
-/

namespace Stepwise

/-- Whether a failure may arise in code: it is not about a task, and not about a program as a whole. -/
def Failure.ofCode : Failure → Bool
  | .unknownTask .. | .broken .. => false
  | _ => true

/-- The ways in which code stops. -/
inductive Stop.OfCode : Stop → Prop where
  | fault (cause : Fault) : OfCode (.fault cause)
  | failure {failure : Failure} (ofCode : failure.ofCode = true) : OfCode failure.stop

namespace Run

variable {α β γ : Type} {written : Value → Prop}

/-- How an outcome compares with the machine before. -/
structure Obeyed (written : Value → Prop) (machine : Machine) (outcome : Except Stop α × Machine) :
    Prop where
  tasks : outcome.2.tasks = machine.tasks
  subtasks : outcome.2.subtasks = machine.subtasks
  writes : Table.Grown written machine.variables outcome.2.variables
  stops : ∀ stop, outcome.1 = .error stop → stop.OfCode

/-- The computation writes only names with a property, provided that registered code does, and stops
only as code does. -/
def Obeys (written : Value → Prop) (run : Run α) : Prop :=
  ∀ machine : Machine, machine.Covered written → Obeyed written machine (run.outcome machine)

/-! ## Rules -/

theorem obeys_pure (value : α) : Obeys written (pure value) :=
  fun machine _ => ⟨rfl, rfl, .refl machine.variables, fun _ stopped => by cases stopped⟩

theorem obeys_throw {stop : Stop} (ofCode : stop.OfCode) : Obeys written (throw stop : Run α) := by
  refine fun machine _ => ⟨rfl, rfl, .refl machine.variables, ?_⟩
  rintro _ ⟨⟩
  exact ofCode

theorem obeys_fault (cause : Fault) : Obeys written (fault cause : Run α) :=
  obeys_throw (.fault cause)

theorem obeys_fail {failure : Failure} (ofCode : failure.ofCode = true) :
    Obeys written (fail failure : Run α) :=
  obeys_throw (.failure ofCode)

theorem obeys_lift (result : Except Fault α) : Obeys written (lift result) := by
  cases result with
  | ok value => exact obeys_pure value
  | error cause => exact obeys_fault cause

theorem Obeys.bind {run : Run α} {next : α → Run β} (obeys : Obeys written run)
    (obeysNext : ∀ value, Obeys written (next value)) : Obeys written (run >>= next) := by
  intro machine covered
  have first := obeys machine covered
  rw [outcome_bind]
  generalize run.outcome machine = ended at first ⊢
  obtain ⟨result, middle⟩ := ended
  cases result with
  | error stop => exact ⟨first.tasks, first.subtasks, first.writes, fun _ stopped => by
      cases stopped
      exact first.stops stop rfl⟩
  | ok value =>
      have still : middle.Covered written :=
        ⟨first.tasks ▸ covered.tasks, first.subtasks ▸ covered.subtasks⟩
      have second := obeysNext value middle still
      exact ⟨second.tasks.trans first.tasks, second.subtasks.trans first.subtasks,
        first.writes.trans second.writes, second.stops⟩

theorem obeys_get_bind {next : Machine → Run α} (obeys : ∀ machine, Obeys written (next machine)) :
    Obeys written (get >>= next) :=
  fun machine => obeys machine machine

/-- A change that leaves variables and code alone. -/
theorem obeys_modify {change : Machine → Machine}
    (same : ∀ machine, (change machine).tasks = machine.tasks ∧
      (change machine).subtasks = machine.subtasks ∧ (change machine).variables = machine.variables) :
    Obeys written (modify change) := by
  refine fun machine _ => ⟨(same machine).1, (same machine).2.1, ?_, fun _ stopped => by cases stopped⟩
  rw [outcome_modify, (same machine).2.2]
  exact .refl _

theorem obeys_ite {condition : Prop} [Decidable condition] {run other : Run α}
    (obeys : Obeys written run) (obeysOther : Obeys written other) :
    Obeys written (if condition then run else other) := by
  split
  · exact obeys
  · exact obeysOther

theorem obeys_mapM {run : γ → Run α} (obeys : ∀ item, Obeys written (run item)) (items : List γ) :
    Obeys written (items.mapM run) := by
  induction items with
  | nil => exact obeys_pure []
  | cons item items ih =>
      rw [List.mapM_cons]
      exact (obeys item).bind fun _ => ih.bind fun _ => obeys_pure _

/-! ## Notes and output -/

theorem obeys_emit (event : Event) : Obeys written (emit event) :=
  obeys_modify fun _ => ⟨rfl, rfl, rfl⟩

theorem obeys_indentBy (amount : Int) : Obeys written (indentBy amount) :=
  obeys_modify fun _ => ⟨rfl, rfl, rfl⟩

theorem obeys_whenExplaining {action : Run Unit} (obeys : Obeys written action) :
    Obeys written (whenExplaining action) :=
  obeys_get_bind fun _ => obeys_ite obeys (obeys_pure _)

theorem obeys_note (category message : String) : Obeys written (note category message) :=
  obeys_whenExplaining (obeys_get_bind fun _ => obeys_emit _)

theorem obeys_output (text : String) : Obeys written (output text) :=
  obeys_get_bind fun _ => obeys_emit _

theorem obeys_explainedIndentBy (amount : Int) : Obeys written (explainedIndentBy amount) :=
  obeys_whenExplaining (obeys_indentBy amount)

theorem obeys_noteSaying (category : String) (message : Except Fault String) :
    Obeys written (noteSaying category message) :=
  obeys_whenExplaining ((obeys_lift _).bind fun _ => obeys_note _ _)

theorem obeys_whenShown (number : Int) {action : Run Unit} (obeys : Obeys written action) :
    Obeys written (whenShown number action) :=
  obeys_get_bind fun _ => obeys_ite obeys (obeys_pure _)

theorem obeys_whenCut (number : Int) {action : Int → Run Unit}
    (obeys : ∀ shown, Obeys written (action shown)) : Obeys written (whenCut number action) :=
  obeys_get_bind fun _ => obeys_ite (obeys _) (obeys_pure _)

theorem obeys_noteIteration (message : Int → Except Fault String) :
    Obeys written (noteIteration message) := by
  refine obeys_get_bind fun _ => (obeys_whenShown _ (obeys_noteSaying _ _)).bind fun _ => ?_
  exact (obeys_whenCut _ fun _ => obeys_note _ _).bind fun _ => obeys_modify fun _ => ⟨rfl, rfl, rfl⟩

theorem obeys_openLoop (node : Value) : Obeys written (openLoop node) :=
  obeys_whenExplaining ((obeys_noteSaying _ _).bind fun _ =>
    (obeys_indentBy 1).bind fun _ => obeys_modify fun _ => ⟨rfl, rfl, rfl⟩)

theorem obeys_completeLoop : Obeys written completeLoop :=
  obeys_get_bind fun _ => obeys_note _ _

theorem obeys_closeLoop (result : Value) {closing : Run Unit} (obeys : Obeys written closing) :
    Obeys written (closeLoop result closing) :=
  obeys_ite ((obeys_explainedIndentBy (-1)).bind fun _ => obeys_pure _)
    (obeys.bind fun _ => (obeys_explainedIndentBy (-1)).bind fun _ => obeys_pure _)

theorem obeys_openRange (range : Value) : Obeys written (openRange range) :=
  obeys_whenExplaining ((obeys_lift _).bind fun _ => (obeys_note _ _).bind fun _ =>
    (obeys_note _ _).bind fun _ => obeys_indentBy 1)

theorem obeys_noteRangeIteration (count number : Nat) (item value : Value) :
    Obeys written (noteRangeIteration count number item value) :=
  (obeys_whenShown number (obeys_noteSaying _ _)).bind fun _ =>
    obeys_whenCut number fun _ => obeys_note _ _

theorem obeys_notNumbered (name value : Value) : Obeys written (notNumbered name value) :=
  (obeys_lift _).bind fun _ => obeys_fault _

theorem obeys_openNumbered (name : Value) : Obeys written (openNumbered name) :=
  obeys_whenExplaining ((obeys_noteSaying _ _).bind fun _ => obeys_indentBy 1)

theorem obeys_openChoice : Obeys written openChoice :=
  obeys_whenExplaining ((obeys_note _ _).bind fun _ => obeys_indentBy 1)

theorem obeys_announce (tree : Value) : Obeys written (announce tree) :=
  obeys_whenExplaining ((obeys_lift _).bind fun _ => (obeys_lift _).bind fun _ =>
    obeys_get_bind fun _ => obeys_emit _)

theorem obeys_noteCountedIteration (collection index element : Value) (number : Nat) (item : Value) :
    Obeys written (noteCountedIteration collection index element number item) := by
  refine obeys_get_bind fun _ => obeys_ite (obeys_get_bind fun _ => ?_) (obeys_pure _)
  refine obeys_ite (obeys_noteSaying _ _) (obeys_ite ((obeys_lift _).bind fun _ => obeys_note _ _) ?_)
  exact (obeys_lift _).bind fun _ => obeys_ite (obeys_noteSaying _ _) (obeys_pure _)

/-! ## Variables and supplies -/

theorem obeys_valueNamed? (name : Value) : Obeys written (valueNamed? name) :=
  (obeys_lift _).bind fun _ => obeys_get_bind fun _ => obeys_pure _

theorem obeys_readVariable (name : String) : Obeys written (readVariable name) := by
  refine obeys_get_bind fun machine => ?_
  split
  · exact obeys_pure _
  · exact obeys_fail rfl

/-- The one place where a variable is written. -/
theorem obeys_assign {name : Value} (isWritten : written name) (value : Value) :
    Obeys written (assign name value) := by
  rw [assign]
  cases named : name.asKey with
  | error cause => exact obeys_fault cause
  | ok key =>
      obtain ⟨rfl, hashable⟩ := Value.asKey_eq_ok_iff.mp named
      exact fun machine _ => ⟨rfl, rfl, Table.grown_store hashable isWritten value machine.variables,
        fun _ stopped => by cases stopped⟩

theorem obeys_supplyOf (value : Value) : Obeys written (supplyOf value) := by
  rw [supplyOf]
  split
  · exact obeys_pure _
  · exact obeys_fault _

theorem obeys_startCursor (source : Supply) (next : Int) : Obeys written (startCursor source next) := by
  refine obeys_get_bind fun _ => Obeys.bind ?_ fun _ => obeys_pure _
  exact obeys_modify fun _ => ⟨rfl, rfl, rfl⟩

theorem obeys_takeCursor? (number : Nat) : Obeys written (takeCursor? number) := by
  refine obeys_get_bind fun machine => ?_
  split
  · exact obeys_pure _
  · refine Obeys.bind ?_ fun _ => obeys_pure _
    exact obeys_modify fun _ => ⟨rfl, rfl, rfl⟩

section Loops

variable {body : Nat → Value → Run Value} (obeys : ∀ number item, Obeys written (body number item))
include obeys

theorem obeys_forItems (items : List Value) (number : Nat) :
    Obeys written (forItems body items number) := by
  induction items generalizing number with
  | nil => exact obeys_pure _
  | cons item items ih =>
      exact (obeys number item).bind fun result => obeys_ite (obeys_pure result) (ih (number + 1))

theorem obeys_forSpan (step : Int) (count : Nat) (start : Int) (number : Nat) :
    Obeys written (forSpan body step count start number) := by
  induction count generalizing start number with
  | zero => exact obeys_pure _
  | succ count ih =>
      exact (obeys number (.int start)).bind fun result =>
        obeys_ite (obeys_pure result) (ih (start + step) (number + 1))

theorem obeys_forCursor (cursor count number : Nat) :
    Obeys written (forCursor body cursor count number) := by
  induction count generalizing number with
  | zero => exact obeys_pure _
  | succ count ih =>
      refine (obeys_takeCursor? cursor).bind fun taken => ?_
      cases taken with
      | none => exact obeys_pure _
      | some item =>
          exact (obeys number item).bind fun result => obeys_ite (obeys_pure result) (ih (number + 1))

theorem obeys_forSupply (supply : Supply) : Obeys written (forSupply supply body) := by
  cases supply with
  | feed feed =>
      cases feed with
      | items items => exact obeys_forItems obeys items 0
      | span start step count => exact obeys_forSpan obeys step count start 0
  | cursor number => exact obeys_get_bind fun _ => obeys_forCursor obeys number _ 0

end Loops

theorem obeys_drainCursor (cursor count : Nat) : Obeys written (drainCursor cursor count) := by
  induction count with
  | zero => exact obeys_pure _
  | succ count ih =>
      refine (obeys_takeCursor? cursor).bind fun taken => ?_
      cases taken with
      | none => exact obeys_pure _
      | some item => exact ih.bind fun _ => obeys_pure _

theorem obeys_drain (supply : Supply) : Obeys written (drain supply) := by
  cases supply with
  | feed feed => exact obeys_pure _
  | cursor number => exact obeys_get_bind fun _ => obeys_drainCursor number _

/-! ## Operations and functions -/

theorem obeys_plus (left right : Value) : Obeys written (plus left right) := by
  unfold plus
  split
  · exact (obeys_lift _).bind fun _ => (obeys_lift _).bind fun _ => obeys_pure _
  · exact (obeys_lift _).bind fun _ => (obeys_lift _).bind fun _ => obeys_pure _
  · exact obeys_pure _
  · exact obeys_fail rfl
  · exact obeys_lift _

theorem obeys_quotient (left right : Value) : Obeys written (quotient left right) := by
  refine obeys_ite (obeys_fail rfl) ?_
  refine (obeys_lift _).bind fun dividend => (obeys_lift _).bind fun divisor => ?_
  exact obeys_ite (obeys_fault _) (obeys_pure _)

theorem obeys_asFloat (value : Value) : Obeys written (asFloat value) :=
  (obeys_lift _).bind fun _ => obeys_pure _

theorem obeys_operate (operator left right : Value) :
    Obeys written (operate operator left right) := by
  unfold operate
  split
  · exact obeys_plus left right
  · exact (obeys_lift _).bind obeys_asFloat
  · exact (obeys_lift _).bind obeys_asFloat
  · exact obeys_quotient left right
  · exact obeys_pure _
  · exact obeys_pure _
  · exact (obeys_lift _).bind fun _ => obeys_pure _
  · exact (obeys_lift _).bind fun _ => obeys_pure _
  · exact (obeys_lift _).bind fun _ => obeys_pure _
  · exact (obeys_lift _).bind fun _ => obeys_pure _
  · exact obeys_fail rfl

theorem obeys_listItem (items : List Value) (position : Int) :
    Obeys written (listItem items position) := by
  unfold listItem
  split
  · exact obeys_pure _
  · exact obeys_fail rfl

theorem obeys_indexList (items : List Value) (key : Value) : Obeys written (indexList items key) := by
  unfold indexList
  split
  · exact obeys_listItem items _
  · split
    · exact obeys_listItem items _
    · exact obeys_fail rfl
  · exact obeys_fail rfl

theorem obeys_indexDict (entries : List (Value × Value)) (key : Value) :
    Obeys written (indexDict entries key) := by
  unfold indexDict
  split
  · exact obeys_fail rfl
  · refine (obeys_lift _).bind fun key => ?_
    split
    · exact obeys_pure _
    · exact obeys_fail rfl

theorem obeys_index (container key : Value) : Obeys written (index container key) := by
  unfold index
  split
  · exact obeys_indexList _ key
  · exact obeys_indexDict _ key
  · exact obeys_fail rfl

theorem obeys_outputText (value : Value) : Obeys written (outputText value) := by
  refine obeys_ite (obeys_lift _) ?_
  split
  · exact obeys_pure _
  · exact (obeys_lift _).bind fun _ => obeys_pure _

theorem obeys_printValues (values : List Value) : Obeys written (printValues values) := by
  refine (obeys_mapM obeys_outputText values).bind fun texts => ?_
  exact (obeys_lift _).bind fun joined => (obeys_output _).bind fun _ => obeys_pure _

theorem obeys_total (start : Value) (values : List Value) : Obeys written (total start values) := by
  induction values generalizing start with
  | nil => exact obeys_pure _
  | cons value rest ih => exact (obeys_lift _).bind fun sum => ih sum

theorem obeys_sumFrom (collection start : Value) : Obeys written (sumFrom collection start) := by
  refine (obeys_supplyOf collection).bind fun supply => ?_
  split
  · exact obeys_fault _
  · exact (obeys_drain supply).bind fun items => obeys_total start items

theorem obeys_sumOf (arguments : List Value) : Obeys written (sumOf arguments) := by
  unfold sumOf
  split
  · exact obeys_fault _
  · exact obeys_sumFrom _ _
  · exact obeys_sumFrom _ _
  · exact obeys_fault _

theorem obeys_lengthOf (arguments : List Value) : Obeys written (lengthOf arguments) := by
  unfold lengthOf
  split
  · exact (obeys_lift _).bind fun _ => obeys_pure _
  · exact obeys_fault _

theorem obeys_enumerationOf (arguments : List Value) : Obeys written (enumerationOf arguments) := by
  unfold enumerationOf
  split
  · exact obeys_fault _
  · exact (obeys_supplyOf _).bind fun _ => obeys_startCursor _ _
  · exact (obeys_lift _).bind fun _ => (obeys_supplyOf _).bind fun _ => obeys_startCursor _ _
  · exact obeys_fault _

theorem obeys_rangeOf (arguments : List Value) : Obeys written (rangeOf arguments) := by
  unfold rangeOf
  split
  · exact obeys_fail rfl
  · split
    · exact (obeys_lift _).bind fun _ => obeys_pure _
    · exact (obeys_lift _).bind fun _ => obeys_pure _
    · exact (obeys_lift _).bind fun _ => obeys_pure _
    · exact obeys_fail rfl

theorem obeys_builtin {name : String} {run : List Value → Run Value}
    (found : builtin? name = some run) (arguments : List Value) : Obeys written (run arguments) := by
  unfold builtin? at found
  split at found
  · cases found; exact obeys_rangeOf arguments
  · cases found; exact obeys_sumOf arguments
  · cases found; exact obeys_lengthOf arguments
  · cases found; exact obeys_printValues arguments
  · cases found; exact obeys_enumerationOf arguments
  · cases found

/-! ## Terms -/

/-- Calls of subtasks obey. -/
abbrev CallsObey (written : Value → Prop) (call : Value → Run Value) : Prop :=
  ∀ name, Obeys written (call name)

section Code

variable {call : Value → Run Value}

theorem obeys_callSubtask (calls : CallsObey written call) (function : Value) :
    Obeys written (callSubtask call function) := by
  refine (obeys_lift _).bind fun key => obeys_get_bind fun _ => obeys_ite (calls key) ?_
  split
  · exact obeys_get_bind fun _ => obeys_ite (calls _) (obeys_get_bind fun _ => obeys_fail rfl)
  · exact obeys_fault _

theorem obeys_callFunction (calls : CallsObey written call) (function : Value)
    (arguments : List Value) : Obeys written (callFunction call function arguments) := by
  unfold callFunction
  split
  · split
    · next found => exact obeys_builtin found arguments
    · exact obeys_callSubtask calls _
  · exact obeys_callSubtask calls function

mutual

theorem obeys_eval (calls : CallsObey written call) (term : Term) :
    Obeys written (eval call term) := by
  cases term with
  | const value => exact obeys_pure value
  | var name => exact obeys_readVariable name
  | fault cause => exact obeys_fault cause
  | after first last => exact (obeys_eval calls first).bind fun _ => obeys_eval calls last
  | list items => exact (obeys_evalItems calls items).bind fun _ => obeys_pure _
  | dict entries => exact (obeys_evalEntries calls entries []).bind fun _ => obeys_pure _
  | index container key =>
      exact (obeys_eval calls container).bind fun _ => (obeys_eval calls key).bind fun _ =>
        obeys_index _ _
  | negate operand => exact (obeys_eval calls operand).bind fun _ => obeys_lift _
  | binary operator left right =>
      exact (obeys_eval calls left).bind fun _ => (obeys_eval calls right).bind fun _ =>
        obeys_operate operator _ _
  | call function arguments =>
      exact (obeys_evalAll calls arguments).bind fun _ => obeys_callFunction calls function _

theorem obeys_evalAll (calls : CallsObey written call) (terms : List Term) :
    Obeys written (evalAll call terms) := by
  cases terms with
  | nil => exact obeys_pure _
  | cons term rest =>
      exact (obeys_eval calls term).bind fun _ => (obeys_evalAll calls rest).bind fun _ =>
        obeys_pure _

theorem obeys_evalItems (calls : CallsObey written call) (terms : List Term) :
    Obeys written (evalItems call terms) := by
  cases terms with
  | nil => exact obeys_pure _
  | cons term rest =>
      exact (obeys_eval calls term).bind fun _ => (obeys_lift _).bind fun _ =>
        (obeys_evalItems calls rest).bind fun _ => obeys_pure _

theorem obeys_evalEntries (calls : CallsObey written call) (entries : List (Term × Term))
    (stored : Table Value) : Obeys written (evalEntries call entries stored) := by
  cases entries with
  | nil => exact obeys_pure _
  | cons entry rest =>
      obtain ⟨key, value⟩ := entry
      exact (obeys_eval calls key).bind fun _ => (obeys_eval calls value).bind fun _ =>
        (obeys_lift _).bind fun _ => (obeys_lift _).bind fun _ => (obeys_lift _).bind fun _ =>
          obeys_evalEntries calls rest _

end

/-- The values of operands are read as terms again, and what those call are registered subtasks too. -/
theorem obeys_evalTest (calls : CallsObey written call) (test : Test) :
    Obeys written (evalTest call test) := by
  cases test with
  | operation left right operator =>
      refine (obeys_eval calls left).bind fun _ => (obeys_eval calls right).bind fun _ => ?_
      refine (obeys_lift _).bind fun _ => (obeys_noteSaying _ _).bind fun _ => ?_
      refine (obeys_eval calls _).bind fun _ => (obeys_eval calls _).bind fun _ => ?_
      exact (obeys_operate _ _ _).bind fun _ => (obeys_noteSaying _ _).bind fun _ => obeys_pure _
  | plain term node =>
      exact (obeys_eval calls term).bind fun _ => (obeys_noteSaying _ _).bind fun _ =>
        (obeys_noteSaying _ _).bind fun _ => obeys_pure _

end Code

/-! ## Actions -/

theorem obeys_takeBranch (message : String) {body : Run Value} (obeys : Obeys written body) :
    Obeys written (takeBranch message body) :=
  (obeys_note _ _).bind fun _ => (obeys_explainedIndentBy 1).bind fun _ => obeys.bind fun _ =>
    obeys_ite ((obeys_explainedIndentBy (-2)).bind fun _ => obeys_pure _)
      ((obeys_explainedIndentBy (-1)).bind fun _ => obeys_pure _)

/-- A name that may be missing is lifted before something is done with it. -/
theorem obeys_lift_target {name : Except Fault Value} {next : Value → Run α}
    (within : ∀ target ∈ targetOf name, written target)
    (obeys : ∀ target, written target → Obeys written (next target)) :
    Obeys written (lift name >>= next) := by
  cases name with
  | error cause => exact obeys_fault cause
  | ok target => exact obeys target (within target List.mem_cons_self)

theorem obeys_assignTo {target : Except Fault Value}
    (within : ∀ name ∈ targetOf target, written name) (value : Value) :
    Obeys written (assignTo target value) := by
  refine (obeys_lift _).bind fun value => obeys_lift_target within fun name isWritten => ?_
  exact (obeys_assign isWritten value).bind fun _ => (obeys_lift _).bind fun _ =>
    (obeys_lift _).bind fun _ => (obeys_note _ _).bind fun _ => obeys_pure _

section Bodies

variable {body : Run Value} (obeys : Obeys written body)
include obeys

theorem obeys_loopDirect {item : Value} (isWritten : written item) (node : Value) (supply : Supply) :
    Obeys written (loopDirect item node supply body) := by
  refine (obeys_openLoop _).bind fun _ => Obeys.bind (obeys_forSupply (fun number value => ?_) supply)
    fun _ => obeys_closeLoop _ obeys_completeLoop
  exact (obeys_assign isWritten _).bind fun _ => (obeys_noteIteration _).bind fun _ => obeys

theorem obeys_loopEnumerated {index element : Value} (indexWritten : written index)
    (elementWritten : written element) (node : Value) (supply : Supply) :
    Obeys written (loopEnumerated index element node supply body) := by
  refine (obeys_openLoop _).bind fun _ => Obeys.bind (obeys_forSupply (fun number value => ?_) supply)
    fun _ => obeys_closeLoop _ obeys_completeLoop
  exact (obeys_assign indexWritten _).bind fun _ => (obeys_assign elementWritten _).bind fun _ =>
    (obeys_noteIteration _).bind fun _ => obeys

theorem obeys_loopOver {item : Value} (isWritten : written item) {source : LoopFeed}
    (within : ∀ target ∈ source.targets, written target) : Obeys written (loopOver item source body) := by
  cases source with
  | direct name =>
      refine (obeys_valueNamed? name).bind fun found => ?_
      cases found with
      | none => exact obeys_get_bind fun _ => obeys_fail rfl
      | some value =>
          dsimp only
          split
          · exact obeys_fail rfl
          · exact obeys_loopDirect obeys isWritten name _
  | enumerated name element node =>
      refine (obeys_valueNamed? name).bind fun found => ?_
      cases found with
      | none => exact obeys_fail rfl
      | some value =>
          exact (obeys_supplyOf value).bind fun supply => obeys_lift_target within
            fun element elementWritten => obeys_loopEnumerated obeys isWritten elementWritten node supply

theorem obeys_loopBelow {item : Value} (isWritten : written item) (bound : Value) :
    Obeys written (loopBelow item bound body) := by
  refine (obeys_lift _).bind fun stop => (obeys_openRange _).bind fun _ => Obeys.bind
    (obeys_forSupply (fun number value => ?_) _) fun _ => obeys_closeLoop _ (obeys_note _ _)
  exact (obeys_assign isWritten _).bind fun _ => (obeys_noteRangeIteration _ _ _ _).bind fun _ => obeys

theorem obeys_loopNumbered {index element : Except Fault Value}
    (indexWithin : ∀ target ∈ targetOf index, written target)
    (elementWithin : ∀ target ∈ targetOf element, written target) (name : Value) :
    Obeys written (loopNumbered index element name body) := by
  refine (obeys_valueNamed? name).bind fun found => ?_
  cases found with
  | none => exact obeys_fail rfl
  | some value =>
      dsimp only
      split
      · exact obeys_notNumbered name value
      · next supply _ =>
          refine (obeys_openNumbered name).bind fun _ => Obeys.bind
            (obeys_forSupply (fun number value => ?_) supply)
            fun _ => obeys_closeLoop _ (obeys_note _ _)
          refine obeys_lift_target indexWithin fun _ indexWritten => ?_
          refine (obeys_assign indexWritten _).bind fun _ => ?_
          refine obeys_lift_target elementWithin fun _ elementWritten => ?_
          exact (obeys_assign elementWritten _).bind fun _ =>
            (obeys_whenShown _ (obeys_noteSaying _ _)).bind fun _ => obeys

/-- A loop with numbers that announces how many items there are, from its first item on. -/
theorem obeys_countedLoop {index element : Value} (indexWritten : written index)
    (elementWritten : written element) (value : Value) (supply : Supply) :
    Obeys written (do
      let result ← forSupply supply fun number item => do
        assign index (.int number)
        assign element item
        noteCountedIteration value index element number item
        body
      closeLoop result do
        if ← explains then
          let length ← lift value.length
          note "COMPLETE" ("Loop finished after processing " ++ toString length ++ " items")) := by
  refine Obeys.bind (obeys_forSupply (fun number item => ?_) supply) fun _ => obeys_closeLoop _ ?_
  · exact (obeys_assign indexWritten _).bind fun _ => (obeys_assign elementWritten _).bind fun _ =>
      (obeys_noteCountedIteration _ _ _ _ _).bind fun _ => obeys
  · exact obeys_get_bind fun _ => obeys_ite ((obeys_lift _).bind fun _ => obeys_note _ _) (obeys_pure _)

theorem obeys_loopAnnounced {index element : Value} (indexWritten : written index)
    (elementWritten : written element) (name : Value) :
    Obeys written (loopAnnounced index element name body) := by
  refine (obeys_valueNamed? name).bind fun found => ?_
  cases found with
  | none => exact obeys_get_bind fun _ => obeys_fail rfl
  | some value =>
      dsimp only
      split
      · exact obeys_fail rfl
      · next supply _ =>
          -- The loop itself is the same whether it is announced or not.
          refine obeys_get_bind fun _ => obeys_ite ?announced ?silent
          case announced =>
            refine (obeys_noteSaying _ _).bind fun _ => (obeys_lift _).bind fun _ =>
              (obeys_note _ _).bind fun _ => (obeys_indentBy 1).bind fun _ => ?_
            exact obeys_countedLoop obeys indexWritten elementWritten value supply
          case silent => exact obeys_countedLoop obeys indexWritten elementWritten value supply

end Bodies

section Actions

variable {call : Value → Run Value}

mutual

/-- An action obeys, with its own targets among the names that may be written. -/
theorem obeys_exec (calls : CallsObey written call) (action : Action)
    (within : ∀ target ∈ action.targets, written target) : Obeys written (exec call action) := by
  cases action with
  | skip => exact obeys_pure _
  | fault cause => exact obeys_fault cause
  | assign target value =>
      exact (obeys_eval calls value).bind fun _ => obeys_assignTo within _
  | call term => exact obeys_eval calls term
  | yield value => exact (obeys_eval calls value).bind fun _ => obeys_pure _
  | decide branches => exact obeys_openChoice.bind fun _ => obeys_execBranches calls branches within
  | forEach item source body =>
      obtain ⟨isWritten, within⟩ := List.forall_mem_cons.mp within
      obtain ⟨sourceWithin, bodyWithin⟩ := List.forall_mem_append.mp within
      exact obeys_loopOver (obeys_execBody calls body bodyWithin) isWritten sourceWithin
  | forRange item bound body =>
      obtain ⟨isWritten, bodyWithin⟩ := List.forall_mem_cons.mp within
      exact (obeys_eval calls bound).bind fun _ =>
        obeys_loopBelow (obeys_execBody calls body bodyWithin) isWritten _
  | forEnumerated index element collection body =>
      obtain ⟨namesWithin, bodyWithin⟩ := List.forall_mem_append.mp within
      obtain ⟨indexWithin, elementWithin⟩ := List.forall_mem_append.mp namesWithin
      exact obeys_loopNumbered (obeys_execBody calls body bodyWithin) indexWithin elementWithin
        collection

theorem obeys_execBody (calls : CallsObey written call) (actions : List Action)
    (within : ∀ target ∈ Action.allTargets actions, written target) :
    Obeys written (execBody call actions) := by
  cases actions with
  | nil => exact obeys_pure _
  | cons action rest =>
      obtain ⟨first, others⟩ := List.forall_mem_append.mp within
      exact (obeys_exec calls action first).bind fun _ =>
        obeys_ite (obeys_pure _) (obeys_execBody calls rest others)

theorem obeys_execBranches (calls : CallsObey written call) (branches : List Branch)
    (within : ∀ target ∈ Branch.allTargets branches, written target) :
    Obeys written (execBranches call branches) := by
  match branches with
  | [] => exact (obeys_explainedIndentBy (-1)).bind fun _ => obeys_pure _
  | .fault cause :: _ => exact obeys_fault cause
  | .test isFirst test body :: rest =>
      obtain ⟨first, others⟩ := List.forall_mem_append.mp within
      exact (obeys_evalTest calls test).bind fun _ =>
        obeys_ite (obeys_takeBranch _ (obeys_execBody calls body first))
          (obeys_execBranches calls rest others)
  | .otherwise body :: _ =>
      obtain ⟨first, -⟩ := List.forall_mem_append.mp within
      exact obeys_takeBranch _ (obeys_execBody calls body first)

end

theorem obeys_execAll (calls : CallsObey written call) (actions : List Action)
    (within : ∀ target ∈ Action.allTargets actions, written target) :
    Obeys written (execAll call actions) := by
  induction actions with
  | nil => exact obeys_pure _
  | cons action rest ih =>
      obtain ⟨first, others⟩ := List.forall_mem_append.mp within
      exact (obeys_exec calls action first).bind fun _ => ih others

theorem obeys_runStep (calls : CallsObey written call) (step : StepCode)
    (within : ∀ target ∈ Action.allTargets step.body, written target) :
    Obeys written (runStep call step) :=
  (obeys_lift _).bind fun _ => (obeys_lift _).bind fun _ => (obeys_note _ _).bind fun _ =>
    (obeys_indentBy 1).bind fun _ => (obeys_execAll calls step.body within).bind fun _ =>
      obeys_indentBy (-1)

/-- A subtask among the parts is run under its name, so that its own code does not matter here. -/
theorem obeys_runItems (calls : CallsObey written call) (items : List TaskItem)
    (within : ∀ target ∈ TaskItem.allTargets items, written target) :
    Obeys written (runItems call items) := by
  induction items with
  | nil => exact obeys_pure _
  | cons item rest ih =>
      obtain ⟨first, others⟩ := List.forall_mem_append.mp within
      cases item with
      | fault cause => exact obeys_fault cause
      | step step => exact (obeys_runStep calls step first).bind fun _ => ih others
      | subtask name body =>
          exact (obeys_lift _).bind fun name => (calls name).bind fun _ => ih others
      | other => exact ih others

end Actions

/-- A registered subtask obeys at every depth of calls. -/
theorem obeys_runSubtask (depth : Nat) (name : Value) : Obeys written (runSubtask depth name) := by
  induction depth generalizing name with
  | zero => exact obeys_fault _
  | succ depth ih =>
      refine (obeys_lift _).bind fun key => ?_
      -- What the body assigns is known only of the machine on which the subtask is looked up.
      intro machine covered
      rw [outcome_get_bind]
      split
      · exact (obeys_get_bind fun _ => obeys_fail rfl) machine covered
      · next body found =>
          obtain ⟨_, stored⟩ := Table.mem_of_fetch? found
          refine Obeys.bind (obeys_lift _) (fun _ => (obeys_note _ _).bind fun _ =>
            (obeys_indentBy 1).bind fun _ => ?_) machine covered
          refine (obeys_execBody ih body (covered.subtasks _ stored)).bind fun _ => ?_
          exact (obeys_indentBy (-1)).bind fun _ => obeys_ite (obeys_lift _) (obeys_pure _)

end Run

end Stepwise
